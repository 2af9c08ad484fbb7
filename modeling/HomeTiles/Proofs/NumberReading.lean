import HomeTiles.JsonReader
import HomeTiles.Proofs.DecimalRounding
import HomeTiles.Proofs.TextValues
import Mathlib.Data.List.Induction
import Mathlib.Data.List.TakeWhile

/-!
# Reading numbers back

What the writer puts down for an integer or a double is read as that number, up
to any rest that cannot be part of a number (`EndsNumber`). An integer has to
stay under the digit limit (`readScalar_integer`). A double reads back whichever
way its digits are laid out (`readScalar_double`), only that every NaN comes back
as the one that texts name.
-/

namespace HomeTiles.JsonReader

/-- What follows a number: nothing that the number could go on with. -/
def EndsNumber (rest : List Char) : Prop := ∀ c ∈ rest.head?, c.isDigit = false ∧ c ≠ '.' ∧ c ≠ 'e' ∧ c ≠ 'E'

theorem endsNumber_nil : EndsNumber [] := by
  intro c first
  cases first

theorem endsNumber_cons {c : Char} (rest : List Char) (other : c.isDigit = false ∧ c ≠ '.' ∧ c ≠ 'e' ∧ c ≠ 'E') :
    EndsNumber (c :: rest) := by
  intro d first
  cases first
  exact other

/-! ## Parts of a number -/

private theorem splitDigits_append {digits rest : List Char} (all : ∀ c ∈ digits, c.isDigit = true)
    (ends : ∀ c ∈ rest.head?, c.isDigit = false) : splitDigits (digits ++ rest) = (digits, rest) := by
  unfold splitDigits
  rw [List.takeWhile_append_of_pos all, List.dropWhile_append_of_pos all]
  cases rest with
  | nil => simp
  | cons c more =>
    have other : c.isDigit = false := ends c rfl
    simp [other]

private theorem readWhole_append {first : Char} {digits rest : List Char} (nonzero : first ≠ '0')
    (all : ∀ c ∈ first :: digits, c.isDigit = true) (ends : ∀ c ∈ rest.head?, c.isDigit = false) :
    readWhole (first :: digits ++ rest) = some (first :: digits, rest) := by
  have split := splitDigits_append all ends
  rw [List.cons_append] at split ⊢
  unfold readWhole
  split
  · next more same =>
    injection same with head _
    exact absurd head nonzero
  · simp [split]

private theorem readWhole_zero (rest : List Char) : readWhole ('0' :: rest) = some (['0'], rest) := rfl

private theorem readFraction_none {rest : List Char} (ends : ∀ c ∈ rest.head?, c ≠ '.') :
    readFraction rest = (none, rest) := by
  cases rest with
  | nil => rfl
  | cons c more =>
    have other : c ≠ '.' := ends c rfl
    unfold readFraction
    split
    · next same =>
      injection same with head _
      exact absurd head other
    · rfl

private theorem readFraction_append {digits rest : List Char} (some_digit : digits ≠ [])
    (all : ∀ c ∈ digits, c.isDigit = true) (ends : ∀ c ∈ rest.head?, c.isDigit = false) :
    readFraction ('.' :: (digits ++ rest)) = (some digits, rest) := by
  simp [readFraction, splitDigits_append all ends, some_digit]

private theorem readExponent_none {rest : List Char} (ends : ∀ c ∈ rest.head?, c ≠ 'e' ∧ c ≠ 'E') :
    readExponent rest = (none, rest) := by
  cases rest with
  | nil => rfl
  | cons c more =>
    have other := ends c rfl
    simp [readExponent, other.1, other.2]

private theorem readExponent_append {digits rest : List Char} (negative : Bool) (some_digit : digits ≠ [])
    (all : ∀ c ∈ digits, c.isDigit = true) (ends : ∀ c ∈ rest.head?, c.isDigit = false) :
    readExponent ('e' :: (if negative then '-' else '+') :: (digits ++ rest)) =
      (some (if negative then -(Nat.ofDigitChars 10 digits 0 : Int) else Nat.ofDigitChars 10 digits 0), rest) := by
  cases negative <;> simp [readExponent, splitDigits_append all ends, some_digit]

/-- A number with a fraction or an exponent is the double nearest to its decimal. -/
private theorem readNumber_parts {limit : Option Nat} (negative : Bool) {cs afterWhole afterFraction rest whole : List Char}
    {fraction : Option (List Char)} {exponent : Option Int} (first : readWhole cs = some (whole, afterWhole))
    (second : readFraction afterWhole = (fraction, afterFraction))
    (third : readExponent afterFraction = (exponent, rest))
    (broken : (fraction.isNone && exponent.isNone) = false) :
    readNumber limit negative cs =
      .ok (.float (Double.ofDecimal negative (Nat.ofDigitChars 10 (whole ++ fraction.getD []) 0)
        (exponent.getD 0 - (fraction.getD []).length)), rest) := by
  simp only [readNumber, first, second, third, broken, Bool.false_eq_true, if_false]

/-! ## Integers -/

theorem toDigits_head_ne_zero {n : Nat} (nonzero : n ≠ 0) :
    ∃ first more, Nat.toDigits 10 n = first :: more ∧ first ≠ '0' := by
  induction n using Nat.strongRecOn with
  | ind n ih =>
    by_cases small : n < 10
    · refine ⟨n.digitChar, [], Nat.toDigits_of_lt_base small, fun same => nonzero ?_⟩
      have value := Nat.toNat_digitChar_sub_48_of_lt_ten small
      rw [same] at value
      exact value.symm
    · obtain ⟨first, more, front, other⟩ := ih (n / 10) (by omega) (by omega)
      refine ⟨first, more ++ [(n % 10).digitChar], ?_, other⟩
      rw [Nat.toDigits_of_base_le (by decide) (by omega), front, List.cons_append]

private theorem readWhole_toDigits (n : Nat) {rest : List Char} (ends : ∀ c ∈ rest.head?, c.isDigit = false) :
    readWhole (Nat.toDigits 10 n ++ rest) = some (Nat.toDigits 10 n, rest) := by
  by_cases zero : n = 0
  · subst zero
    rfl
  · have all : ∀ c ∈ Nat.toDigits 10 n, c.isDigit = true := fun c inside =>
      Nat.isDigit_of_mem_toDigits (by decide) (by decide) inside
    obtain ⟨first, more, front, other⟩ := toDigits_head_ne_zero zero
    rw [front] at all ⊢
    exact readWhole_append other all ends

/-- A whole number of few enough digits is read as it is. -/
theorem readNumber_toDigits (negative : Bool) {n limit : Nat} (few : (Nat.toDigits 10 n).length ≤ limit)
    {rest : List Char} (ends : EndsNumber rest) :
    readNumber (some limit) negative (Nat.toDigits 10 n ++ rest) = .ok (.int (if negative then -n else n), rest) := by
  have whole := readWhole_toDigits n fun c first => (ends c first).1
  simp [readNumber, whole, readFraction_none fun c first => (ends c first).2.1,
    readExponent_none fun c first => (ends c first).2.2, few, Nat.ofDigitChars_ten_toDigits]

/-! ## Decimals -/

/-- Digits that begin with one that is not zero. -/
structure Figures (digits : List Char) : Prop where
  all : ∀ c ∈ digits, c.isDigit = true
  leads : ∃ first more, digits = first :: more ∧ first ≠ '0'

namespace Figures

variable {digits : List Char} (figures : Figures digits)
include figures

theorem ne_nil : digits ≠ [] := by
  obtain ⟨first, more, rfl, _⟩ := figures.leads
  exact List.cons_ne_nil first more

theorem readWhole_append {zeros rest : List Char} (all : ∀ c ∈ zeros, c.isDigit = true)
    (ends : ∀ c ∈ rest.head?, c.isDigit = false) :
    readWhole (digits ++ zeros ++ rest) = some (digits ++ zeros, rest) := by
  have every : ∀ c ∈ digits ++ zeros, c.isDigit = true := fun c inside =>
    (List.mem_append.mp inside).elim (figures.all c) (all c)
  obtain ⟨first, more, rfl, nonzero⟩ := figures.leads
  exact JsonReader.readWhole_append nonzero every ends

end Figures

theorem figures_toDigits {n : Nat} (nonzero : n ≠ 0) : Figures (Nat.toDigits 10 n) :=
  ⟨fun _ inside => Nat.isDigit_of_mem_toDigits (by decide) (by decide) inside, toDigits_head_ne_zero nonzero⟩

private theorem zeros_are_digits (n : Nat) : ∀ c ∈ List.replicate n '0', c.isDigit = true := by
  intro c inside
  rw [List.eq_of_mem_replicate inside]
  rfl

/-- Digits are those that `trimZeros` keeps and some zeros. -/
theorem trimZeros_append (digits : List Char) :
    ∃ zeros, digits = Decimal.trimZeros digits ++ List.replicate zeros '0' := by
  refine ⟨(digits.reverse.takeWhile (· = '0')).length, ?_⟩
  have zeros : (digits.reverse.takeWhile (· = '0')).reverse =
      List.replicate (digits.reverse.takeWhile (· = '0')).length '0' := by
    refine List.eq_replicate_iff.mpr ⟨List.length_reverse, fun c inside => ?_⟩
    have same := List.mem_takeWhile_imp (List.mem_reverse.mp inside)
    exact of_decide_eq_true same
  rw [← zeros, Decimal.trimZeros, ← List.reverse_append, List.takeWhile_append_dropWhile, List.reverse_reverse]

theorem Figures.trimZeros {digits : List Char} (figures : Figures digits) : Figures (Decimal.trimZeros digits) := by
  obtain ⟨zeros, same⟩ := trimZeros_append digits
  refine ⟨fun c inside => figures.all c (same ▸ List.mem_append_left _ inside), ?_⟩
  obtain ⟨first, more, front, nonzero⟩ := figures.leads
  cases kept : Decimal.trimZeros digits with
  | nil =>
    rw [kept, List.nil_append, front] at same
    exact absurd (List.eq_of_mem_replicate (same ▸ List.mem_cons_self)) nonzero
  | cons c rest =>
    rw [kept, front, List.cons_append] at same
    injection same with head _
    exact ⟨c, rest, rfl, head ▸ nonzero⟩

/-- The digits that the scientific layout writes an exponent with, at least two. -/
private def exponentDigits (exponent : Int) : List Char :=
  if (Nat.toDigits 10 exponent.natAbs).length < 2 then '0' :: Nat.toDigits 10 exponent.natAbs
  else Nat.toDigits 10 exponent.natAbs

/-- A signed exponent reads as itself. -/
private theorem readExponent_exponentDigits (exponent : Int) {rest : List Char}
    (ends : ∀ c ∈ rest.head?, c.isDigit = false) :
    readExponent ('e' :: (if exponent < 0 then '-' else '+') :: (exponentDigits exponent ++ rest)) =
      (some exponent, rest) := by
  have plain : ∀ c ∈ Nat.toDigits 10 exponent.natAbs, c.isDigit = true := fun c inside =>
    Nat.isDigit_of_mem_toDigits (by decide) (by decide) inside
  have every : ∀ c ∈ exponentDigits exponent, c.isDigit = true := by
    intro c inside
    unfold exponentDigits at inside
    split_ifs at inside
    · rcases List.mem_cons.mp inside with same | later
      · rw [same]
        rfl
      · exact plain c later
    · exact plain c inside
  have some_digit : exponentDigits exponent ≠ [] := by
    unfold exponentDigits
    split_ifs
    · exact List.cons_ne_nil _ _
    · exact Nat.toDigits_ne_nil
  have value : Nat.ofDigitChars 10 (exponentDigits exponent) 0 = exponent.natAbs := by
    unfold exponentDigits
    split_ifs <;> simp [Nat.ofDigitChars_cons, Nat.ofDigitChars_ten_toDigits]
  have signed : (if decide (exponent < 0) = true then -(Nat.ofDigitChars 10 (exponentDigits exponent) 0 : Int)
      else Nat.ofDigitChars 10 (exponentDigits exponent) 0) = exponent := by
    rw [value]
    by_cases below : exponent < 0
    · simp only [below, decide_true, if_true]
      omega
    · simp only [below, decide_false, Bool.false_eq_true, if_false]
      omega
  have power := readExponent_append (decide (exponent < 0)) some_digit every ends
  rw [signed] at power
  simpa only [decide_eq_true_eq] using power

section Layouts

variable {limit : Option Nat} (negative : Bool) {digits : List Char} (figures : Figures digits) {rest : List Char}
  (ends : EndsNumber rest)
include figures ends

/-- The positional layout reads as its digits with the point where it stands. -/
private theorem readNumber_positional (point : Int) :
    readNumber limit negative (Decimal.positional digits point ++ rest) =
      .ok (.float (Double.ofDecimal negative (Nat.ofDigitChars 10 digits 0) (point - digits.length)), rest) := by
  have noMore : ∀ c ∈ rest.head?, c.isDigit = false := fun c first => (ends c first).1
  have noPower : readExponent rest = (none, rest) := readExponent_none fun c first => (ends c first).2.2
  unfold Decimal.positional
  split_ifs with before after
  · -- the point comes before the digits
    have places : ∀ c ∈ List.replicate (-point).toNat '0' ++ digits, c.isDigit = true := fun c inside =>
      (List.mem_append.mp inside).elim (zeros_are_digits _ c) (figures.all c)
    have fraction := readFraction_append (by simp [figures.ne_nil]) places noMore
    rw [List.cons_append, List.cons_append, readNumber_parts negative (readWhole_zero _) fraction noPower rfl]
    have value : Nat.ofDigitChars 10 ('0' :: (List.replicate (-point).toNat '0' ++ digits)) 0 =
        Nat.ofDigitChars 10 digits 0 := by
      simp [Nat.ofDigitChars_cons, Nat.ofDigitChars_append]
    have level : (0 : Int) - (List.replicate (-point).toNat '0' ++ digits).length = point - digits.length := by
      rw [List.length_append, List.length_replicate]
      omega
    simp only [List.singleton_append, Option.getD_some, Option.getD_none, value, level]
  · -- the point comes after the digits
    have dot : ∀ c ∈ ('.' :: (['0'] ++ rest)).head?, c.isDigit = false := by simp
    have whole := figures.readWhole_append (zeros_are_digits (point.toNat - digits.length)) dot
    have fraction : readFraction ('.' :: (['0'] ++ rest)) = (some ['0'], rest) :=
      readFraction_append (by simp) (by simp) noMore
    rw [List.append_assoc _ ['.', '0'] rest, show ['.', '0'] ++ rest = '.' :: (['0'] ++ rest) from rfl,
      readNumber_parts negative whole fraction noPower rfl]
    have value : Nat.ofDigitChars 10 (digits ++ List.replicate (point.toNat - digits.length) '0' ++ ['0']) 0 =
        Nat.ofDigitChars 10 digits 0 * 10 ^ (point.toNat - digits.length + 1) := by
      simp only [Nat.ofDigitChars_append, Nat.ofDigitChars_replicate_zero, Nat.ofDigitChars_cons,
        Nat.ofDigitChars_nil, Nat.pow_succ]
      simp
      ring
    have level : (0 : Int) - (['0'].length : Nat) =
        point - digits.length - (point.toNat - digits.length + 1 : Nat) := by
      simp only [List.length_singleton]
      omega
    simp only [Option.getD_some, Option.getD_none, value, level, Double.ofDecimal_shift]
  · -- the point comes between two digits
    obtain ⟨first, more, front, nonzero⟩ := figures.leads
    have inside : ∃ k, point.toNat = k + 1 := ⟨point.toNat - 1, by omega⟩
    obtain ⟨k, position⟩ := inside
    have takes : digits.take point.toNat = first :: more.take k := by rw [position, front, List.take_succ_cons]
    have left : ∀ c ∈ first :: more.take k, c.isDigit = true := fun c member =>
      figures.all c (List.mem_of_mem_take (takes ▸ member))
    have right : ∀ c ∈ digits.drop point.toNat, c.isDigit = true := fun c member =>
      figures.all c (List.mem_of_mem_drop member)
    have dot : ∀ c ∈ ('.' :: (digits.drop point.toNat ++ rest)).head?, c.isDigit = false := by simp
    have whole := readWhole_append nonzero left dot
    have remains : digits.drop point.toNat ≠ [] := by
      intro none
      have := List.drop_eq_nil_iff.mp none
      omega
    have fraction := readFraction_append remains right noMore
    rw [List.append_assoc, List.cons_append, takes, readNumber_parts negative whole fraction noPower rfl]
    have level : (0 : Int) - (digits.drop point.toNat).length = point - digits.length := by
      rw [List.length_drop]
      omega
    simp only [Option.getD_some, Option.getD_none, level]
    rw [← takes, List.take_append_drop]

/-- The scientific layout reads as its digits with the point after the first one moved by the exponent. -/
private theorem readNumber_scientific (exponent : Int) :
    readNumber limit negative (Decimal.scientific digits exponent ++ rest) =
      .ok (.float (Double.ofDecimal negative (Nat.ofDigitChars 10 digits 0) (exponent + 1 - digits.length)), rest) := by
  have power := readExponent_exponentDigits exponent fun c first => (ends c first).1
  obtain ⟨first, more, front, nonzero⟩ := figures.leads
  let exponentText := 'e' :: (if exponent < 0 then '-' else '+') :: (exponentDigits exponent ++ rest)
  have text : Decimal.scientific digits exponent ++ rest =
      (if more = [] then [first] else first :: '.' :: more) ++ exponentText := by
    rw [front]
    cases more <;> simp [Decimal.scientific, exponentText, exponentDigits]
  rw [text]
  have lead : ∀ c ∈ [first], c.isDigit = true := fun c inside =>
    figures.all c (front ▸ List.mem_cons.mpr (.inl (List.mem_singleton.mp inside)))
  have mark : ∀ c ∈ exponentText.head?, c.isDigit = false := by simp [exponentText]
  by_cases single : more = []
  · have whole := readWhole_append nonzero lead mark
    have fraction : readFraction exponentText = (none, exponentText) := readFraction_none (by simp [exponentText])
    rw [if_pos single, readNumber_parts negative whole fraction power rfl, front, single]
    simp
  · have places : ∀ c ∈ more, c.isDigit = true := fun c inside => figures.all c (front ▸ List.mem_cons_of_mem _ inside)
    have dot : ∀ c ∈ ('.' :: (more ++ exponentText)).head?, c.isDigit = false := by simp
    have whole := readWhole_append nonzero lead dot
    have fraction := readFraction_append single places mark
    rw [if_neg single, List.cons_append, List.cons_append, ← List.singleton_append,
      readNumber_parts negative whole fraction power rfl, front]
    have level : exponent - (more.length : Int) = exponent + 1 - (first :: more).length := by
      rw [List.length_cons]
      omega
    simp only [Option.getD_some, List.singleton_append, level]

end Layouts

/-- The text of a decimal that is not zero reads as the nearest double. -/
theorem readNumber_decimal {limit : Option Nat} (negative : Bool) {d : Decimal} (nonzero : d.digits ≠ 0)
    {rest : List Char} (ends : EndsNumber rest) :
    readNumber limit negative (d.text ++ rest) = .ok (.float (Double.ofDecimal negative d.digits d.exponent), rest) := by
  have figures := (figures_toDigits nonzero).trimZeros
  obtain ⟨zeros, split⟩ := trimZeros_append (Nat.toDigits 10 d.digits)
  have value : d.digits = Nat.ofDigitChars 10 (Decimal.trimZeros (Nat.toDigits 10 d.digits)) 0 * 10 ^ zeros := by
    have whole : Nat.ofDigitChars 10 (Nat.toDigits 10 d.digits) 0 = d.digits := Nat.ofDigitChars_ten_toDigits
    rw [split, Nat.ofDigitChars_append, Nat.ofDigitChars_replicate_zero, Nat.mul_comm] at whole
    exact whole.symm
  have length := congrArg List.length split
  rw [List.length_append, List.length_replicate] at length
  have level : d.exponent = d.exponent + (Nat.toDigits 10 d.digits).length
      - (Decimal.trimZeros (Nat.toDigits 10 d.digits)).length - zeros := by omega
  have same := Double.ofDecimal_shift negative (Nat.ofDigitChars 10 (Decimal.trimZeros (Nat.toDigits 10 d.digits)) 0)
    (d.exponent + (Nat.toDigits 10 d.digits).length - (Decimal.trimZeros (Nat.toDigits 10 d.digits)).length) zeros
  rw [← level, ← value] at same
  rw [same, Decimal.text]
  split_ifs with near
  · exact readNumber_positional negative figures ends _
  · rw [readNumber_scientific negative figures ends, Int.sub_add_cancel]

/-! ## Numbers among other values -/

private theorem readScalar_of_digit {limit : Option Nat} {first : Char} (digit : first.isDigit = true) (more : List Char) :
    readScalar limit (first :: more) = readNumber limit false (first :: more) := by
  have word : readWord? (first :: more) = none := by
    unfold readWord?
    split <;> first | rfl | (rename_i same; injection same with head _; subst head; exact absurd digit (by decide))
  have quote : first ≠ '"' := by
    rintro rfl
    exact absurd digit (by decide)
  have minus : first ≠ '-' := by
    rintro rfl
    exact absurd digit (by decide)
  unfold readScalar
  split
  · next same =>
    injection same with head _
    exact absurd head quote
  · rw [word]
    dsimp only
    split
    · next same =>
      injection same with head _
      exact absurd head minus
    · rfl

private theorem readScalar_of_minus {limit : Option Nat} {first : Char} (digit : first.isDigit = true) (more : List Char) :
    readScalar limit ('-' :: first :: more) = readNumber limit true (first :: more) := by
  have word : readWord? ('-' :: first :: more) = none := by
    unfold readWord?
    split <;> first
      | rfl
      | (rename_i same; injection same with head tail; first
          | exact absurd head (by decide)
          | (injection tail with second _; subst second; exact absurd digit (by decide)))
  simp [readScalar, word]

/-- An integer of few enough digits is read as it was written. -/
theorem readScalar_integer {n : Int} (short : exceedsDigitLimit n = false) {rest : List Char} (ends : EndsNumber rest) :
    readScalar (some digitLimit) (JsonWriter.integer n ++ rest) = .ok (.int n, rest) := by
  have few := (Value.exceedsDigitLimit_eq_false_iff n).mp short
  obtain ⟨first, more, front⟩ := List.exists_cons_of_ne_nil (Nat.toDigits_ne_nil (n := n.natAbs) (b := 10))
  have digit : first.isDigit = true :=
    Nat.isDigit_of_mem_toDigits (by decide) (by decide) (front ▸ List.mem_cons_self)
  have number := fun negative => readNumber_toDigits negative few ends
  rw [front, List.cons_append] at number
  unfold JsonWriter.integer
  split_ifs with below
  · rw [front, List.cons_append, List.cons_append, readScalar_of_minus digit, number]
    simp only [if_true]
    rw [show -(n.natAbs : Int) = n by omega]
  · rw [front, List.cons_append, readScalar_of_digit digit, number]
    simp only [Bool.false_eq_true, if_false]
    rw [show (n.natAbs : Int) = n by omega]

theorem text_begins_with_digit {d : Decimal} (nonzero : d.digits ≠ 0) :
    ∃ first more, d.text = first :: more ∧ first.isDigit = true := by
  obtain ⟨all, first, more, front, _⟩ := (figures_toDigits nonzero).trimZeros
  have digit : first.isDigit = true := all first (front ▸ List.mem_cons_self)
  rw [Decimal.text]
  split_ifs with near
  · unfold Decimal.positional
    split_ifs with before after
    · exact ⟨'0', _, rfl, rfl⟩
    · exact ⟨first, _, by rw [front, List.cons_append, List.cons_append], digit⟩
    · obtain ⟨k, position⟩ : ∃ k, (d.exponent + (Nat.toDigits 10 d.digits).length).toNat = k + 1 :=
        ⟨(d.exponent + (Nat.toDigits 10 d.digits).length).toNat - 1, by omega⟩
      exact ⟨first, _, by rw [position, front, List.take_succ_cons, List.cons_append], digit⟩
  · rw [front, Decimal.scientific.eq_def]
    cases more with
    | nil => exact ⟨first, _, rfl, digit⟩
    | cons second others => exact ⟨first, _, rfl, digit⟩

/-- A double is read as it was written, and every NaN as the one that texts name. -/
theorem readScalar_double {limit : Option Nat} (x : Double) {rest : List Char} (ends : EndsNumber rest) :
    readScalar limit (x.text jsonWords ++ rest) = .ok (.float x.settled, rest) := by
  have noMore : ∀ c ∈ rest.head?, c.isDigit = false := fun c first => (ends c first).1
  have zero : ∀ negative, readNumber limit negative ('0' :: '.' :: (['0'] ++ rest)) =
      .ok (.float (Double.zero negative), rest) := by
    intro negative
    have fraction := readFraction_append (List.cons_ne_nil '0' []) (by simp) noMore
    have power := readExponent_none fun c first => (ends c first).2.2
    rw [readNumber_parts negative (readWhole_zero _) fraction power rfl]
    simp [Nat.ofDigitChars_cons, Double.ofDecimal_zero]
  cases x with
  | nan computed => rfl
  | infinity negative => cases negative <;> rfl
  | finite negative ordinal =>
    by_cases none : ordinal.val = 0
    · have same : Double.finite negative ordinal = Double.zero negative := by
        rw [Double.zero]
        congr
        exact Fin.ext none
      rw [Double.settled_finite, same]
      cases negative with
      | false =>
        rw [← zero false, ← readScalar_of_digit rfl, Double.zero, Double.text]
        rfl
      | true =>
        rw [← zero true, ← readScalar_of_minus rfl, Double.zero, Double.text]
        rfl
    · have digits := Double.digits_shortest_ne_zero none
      obtain ⟨first, more, front, digit⟩ := text_begins_with_digit digits
      have number : ∀ negative, readNumber limit negative ((Decimal.shortest ordinal).text ++ rest) = _ :=
        fun negative => readNumber_decimal negative digits ends
      simp only [Double.ofDecimal_sign (Double.ofDecimal_shortest ordinal), front, List.cons_append] at number
      rw [Double.settled_finite, Double.text, if_neg none, front]
      cases negative with
      | false => exact (readScalar_of_digit digit (more ++ rest)).trans (number false)
      | true => exact (readScalar_of_minus digit (more ++ rest)).trans (number true)

/-! ## What numbers are read -/

private theorem ofDigitChars_lt {digits : List Char} (all : ∀ c ∈ digits, c.isDigit = true) :
    Nat.ofDigitChars 10 digits 0 < 10 ^ digits.length := by
  induction digits using List.reverseRec with
  | nil => simp
  | append_singleton front c ih =>
    have before := ih fun d inside => all d (List.mem_append_left _ inside)
    have digit : c.toNat - '0'.toNat < 10 := by
      have range := all c (List.mem_append_right _ List.mem_cons_self)
      rw [Char.isDigit_iff_toNat, show '0'.toNat = 48 from rfl, show '9'.toNat = 57 from rfl] at range
      rw [show '0'.toNat = 48 from rfl]
      omega
    rw [Nat.ofDigitChars_append, Nat.ofDigitChars_cons, Nat.ofDigitChars_nil, List.length_append, List.length_singleton,
      Nat.pow_succ]
    omega

private theorem readWhole_digits {cs whole rest : List Char} (read : readWhole cs = some (whole, rest)) :
    whole ≠ [] ∧ ∀ c ∈ whole, c.isDigit = true := by
  unfold readWhole at read
  split at read
  · simp only [Option.some.injEq, Prod.mk.injEq] at read
    rw [← read.1]
    refine ⟨List.cons_ne_nil _ _, fun c inside => ?_⟩
    rw [List.mem_singleton.mp inside]
    rfl
  · dsimp only [splitDigits] at read
    split_ifs at read with empty
    simp only [Option.some.injEq, Prod.mk.injEq] at read
    rw [← read.1]
    exact ⟨fun none => empty (List.isEmpty_iff.mpr none), fun c inside => List.mem_takeWhile_imp inside⟩

/-- A number is an integer of few enough digits or a double that reads back. -/
theorem textual_of_readNumber {negative : Bool} {cs rest : List Char} {v : Value}
    (read : readNumber (some digitLimit) negative cs = .ok (v, rest)) : v.Textual := by
  unfold readNumber at read
  split at read
  · cases read
  · next whole afterWhole found =>
    obtain ⟨some_digit, all⟩ := readWhole_digits found
    have few : ¬ (some digitLimit).any (· < whole.length) = true →
        (Nat.toDigits 10 (Nat.ofDigitChars 10 whole 0)).length ≤ digitLimit := by
      intro long
      have bound := (Nat.length_toDigits_le_iff (by decide) (List.length_pos_iff.mpr some_digit)).mpr
        (ofDigitChars_lt all)
      simp only [Option.any_some, decide_eq_true_eq] at long
      omega
    dsimp only at read
    split_ifs at read with plain long negated
    · -- an integer below zero
      cases read
      refine Value.textual_int ?_
      rw [Int.natAbs_neg, Int.natAbs_natCast]
      exact few long
    · -- any other integer
      cases read
      refine Value.textual_int ?_
      rw [Int.natAbs_natCast]
      exact few long
    · cases read
      exact Value.textual_float (Double.settled_ofDecimal _ _ _)

private theorem textual_of_readWord {cs rest : List Char} {v : Value} (read : readWord? cs = some (v, rest)) :
    v.Textual := by
  unfold readWord? at read
  split at read <;> cases read <;> exact ⟨rfl, trivial, rfl⟩

/-- A value that holds no other comes out of a text as texts hold it. -/
theorem textual_of_readScalar {cs rest : List Char} {v : Value}
    (read : readScalar (some digitLimit) cs = .ok (v, rest)) : v.Textual := by
  unfold readScalar at read
  split at read
  · split at read <;> cases read
    exact ⟨rfl, trivial, rfl⟩
  · split at read
    · next found =>
      cases read
      exact textual_of_readWord found
    · split at read
      · exact textual_of_readNumber read
      · exact textual_of_readNumber read

end HomeTiles.JsonReader
