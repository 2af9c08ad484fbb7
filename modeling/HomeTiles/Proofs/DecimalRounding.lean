import HomeTiles.DecimalText
import Mathlib.Tactic.Linarith
import Mathlib.Tactic.Ring

/-!
# Rounding decimals: the value alone decides

`nearestOrdinal_congr` says that two quotients of the same value have the same
nearest double, `ofDecimal_shift` that digits may move between the significand
and the exponent of a decimal. The double nearest to what an ordinal stands for
is that double again (`nearestOrdinal_units`), so the exact expansion reads back,
and with it the shortest decimal (`ofDecimal_shortest`).
-/

namespace HomeTiles.Double

/-! ## Quotients -/

private theorem roundHalfEven_scale (num den k : Nat) (pos : 0 < k) :
    roundHalfEven (num * k) (den * k) = roundHalfEven num den := by
  have whole : num * k / (den * k) = num / den := Nat.mul_div_mul_right num den pos
  have rest : 2 * (num * k % (den * k)) = 2 * (num % den) * k := by
    rw [Nat.mul_mod_mul_right, Nat.mul_assoc]
  simp only [roundHalfEven, whole, rest, Nat.mul_lt_mul_right pos]

private theorem nearestOrdinal_scale (num den k : Nat) (pos : 0 < k) :
    nearestOrdinal (num * k) (den * k) = nearestOrdinal num den := by
  have whole : num * k / (den * k) = num / den := Nat.mul_div_mul_right num den pos
  have order : ∀ shift, den * k * Nat.pow 2 shift = den * Nat.pow 2 shift * k := fun shift =>
    Nat.mul_right_comm den k (Nat.pow 2 shift)
  simp only [nearestOrdinal, whole, order, roundHalfEven_scale _ _ _ pos]

/-- Quotients of one value have one nearest double. -/
theorem nearestOrdinal_congr {num den num' den' : Nat} (pos : 0 < den) (pos' : 0 < den')
    (same : num * den' = num' * den) : nearestOrdinal num den = nearestOrdinal num' den' := by
  rw [← nearestOrdinal_scale num den den' pos', ← nearestOrdinal_scale num' den' den pos, same,
    Nat.mul_comm den den']

theorem ofQuotient_congr {num den num' den' : Nat} (negative : Bool) (pos : 0 < den) (pos' : 0 < den')
    (same : num * den' = num' * den) : ofQuotient negative num den = ofQuotient negative num' den' := by
  simp only [ofQuotient, nearestOrdinal_congr pos pos' same]

private theorem roundHalfEven_ge (num den : Nat) : num / den ≤ roundHalfEven num den := by
  unfold roundHalfEven
  dsimp only
  split_ifs <;> omega

/-- From `2 ^ 2098` units on there is no double that is near enough. -/
private theorem ofQuotient_huge (negative : Bool) {num bits : Nat} (many : 2098 ≤ bits) (huge : 2 ^ bits ≤ num) :
    ofQuotient negative num 1 = .infinity negative := by
  have positive : num ≠ 0 := Nat.ne_of_gt (Nat.lt_of_lt_of_le (Nat.two_pow_pos bits) huge)
  have height : 2098 ≤ num.log2 := many.trans ((Nat.le_log2 positive).mpr huge)
  have bits : num.log2 - 52 + 52 = num.log2 := by omega
  have enough : binade ≤ num / (1 * Nat.pow 2 (num.log2 - 52)) := by
    have pos : 0 < 1 * Nat.pow 2 (num.log2 - 52) := by
      rw [Nat.one_mul]
      exact Nat.two_pow_pos _
    refine (Nat.le_div_iff_mul_le pos).mpr ?_
    calc binade * (1 * Nat.pow 2 (num.log2 - 52)) = 2 ^ num.log2 := by
          rw [Nat.one_mul, ← bits, Nat.add_comm (num.log2 - 52) 52, Nat.pow_add]
          simp
      _ ≤ num := Nat.log2_self_le positive
  have large : 2047 * binade ≤ nearestOrdinal num 1 := by
    have rounded := roundHalfEven_ge num (1 * Nat.pow 2 (num.log2 - 52))
    have steps : 2046 * binade ≤ (num.log2 - 52) * binade := Nat.mul_le_mul_right _ (by omega)
    simp only [nearestOrdinal, Nat.div_one]
    omega
  simp only [ofQuotient, dif_neg (Nat.not_lt.mpr large)]

/-- Less than half a unit is nearest to zero. -/
private theorem ofQuotient_tiny (negative : Bool) {num den : Nat} (tiny : 2 * num < den) :
    ofQuotient negative num den = zero negative := by
  have none : num / den = 0 := Nat.div_eq_of_lt (by omega)
  have all : num % den = num := Nat.mod_eq_of_lt (by omega)
  have nearest : nearestOrdinal num den = 0 := by
    simp [nearestOrdinal, roundHalfEven, none, all, tiny]
  simp only [ofQuotient, nearest]
  rfl

/-! ## Decimals -/

/-- The units of a decimal as a quotient: a power of ten on one side or on the other. -/
private theorem ofDecimal_quotient (negative : Bool) {digits : Nat} (some_digit : digits ≠ 0) (exponent : Int) :
    ofDecimal negative digits exponent =
      ofQuotient negative (digits * 10 ^ exponent.toNat * unitsOfOne) (10 ^ (-exponent).toNat) := by
  rw [ofDecimal.eq_def, if_neg some_digit]
  by_cases large : 308 < exponent
  · have level : (-exponent).toNat = 0 := by omega
    have bound : 2 ^ 1024 ≤ digits * 10 ^ exponent.toNat :=
      calc 2 ^ 1024 ≤ 10 ^ 309 := by decide +kernel
        _ ≤ 10 ^ exponent.toNat := Nat.pow_le_pow_right (by decide) (by omega)
        _ ≤ digits * 10 ^ exponent.toNat := Nat.le_mul_of_pos_left _ (Nat.pos_of_ne_zero some_digit)
    have huge : 2 ^ 2098 ≤ digits * 10 ^ exponent.toNat * unitsOfOne := by
      have product := Nat.mul_le_mul_right unitsOfOne bound
      have split : 2 ^ 1024 * unitsOfOne = 2 ^ 2098 := by decide +kernel
      rw [split] at product
      exact product
    rw [if_pos large, level, Nat.pow_zero, ofQuotient_huge negative le_rfl huge]
  · rw [if_neg large]
    by_cases under : exponent + (digits.log2 / 3 + 1 : Nat) < -323
    · have level : exponent.toNat = 0 := by omega
      have few : digits < 10 ^ (digits.log2 / 3 + 1) :=
        calc digits < 2 ^ (digits.log2 + 1) := Nat.lt_log2_self
          _ ≤ 2 ^ (3 * (digits.log2 / 3 + 1)) := Nat.pow_le_pow_right (by decide) (by omega)
          _ = 8 ^ (digits.log2 / 3 + 1) := by rw [Nat.pow_mul]
          _ ≤ 10 ^ (digits.log2 / 3 + 1) := Nat.pow_le_pow_left (by decide) _
      have tiny : 2 * (digits * 10 ^ exponent.toNat * unitsOfOne) < 10 ^ (-exponent).toNat := by
        have units : 2 * unitsOfOne ≤ 10 ^ 324 := by decide +kernel
        rw [level, Nat.pow_zero, Nat.mul_one]
        calc 2 * (digits * unitsOfOne) = digits * (2 * unitsOfOne) := by ring
          _ ≤ digits * 10 ^ 324 := Nat.mul_le_mul_left _ units
          _ < 10 ^ (digits.log2 / 3 + 1) * 10 ^ 324 := Nat.mul_lt_mul_of_pos_right few (by positivity)
          _ = 10 ^ (digits.log2 / 3 + 1 + 324) := by rw [Nat.pow_add _ (digits.log2 / 3 + 1)]
          _ ≤ 10 ^ (-exponent).toNat := Nat.pow_le_pow_right (by decide) (by omega)
      rw [if_pos under, ofQuotient_tiny negative tiny]
    · rw [if_neg under]
      cases exponent with
      | ofNat e => simp
      | negSucc e => simp [Int.neg_negSucc]

/-- Digits may move between the significand and the exponent. -/
theorem ofDecimal_shift (negative : Bool) (digits : Nat) (exponent : Int) (places : Nat) :
    ofDecimal negative (digits * 10 ^ places) (exponent - places) = ofDecimal negative digits exponent := by
  by_cases none : digits = 0
  · simp [ofDecimal, none]
  · have scaled : digits * 10 ^ places ≠ 0 := Nat.mul_ne_zero none (by positivity)
    rw [ofDecimal_quotient negative scaled, ofDecimal_quotient negative none]
    refine ofQuotient_congr negative (by positivity) (by positivity) ?_
    have balance : places + (exponent - places).toNat + (-exponent).toNat =
        exponent.toNat + (-(exponent - places)).toNat := by omega
    calc digits * 10 ^ places * 10 ^ (exponent - places).toNat * unitsOfOne * 10 ^ (-exponent).toNat
        = digits * unitsOfOne * 10 ^ (places + (exponent - places).toNat + (-exponent).toNat) := by
          rw [Nat.pow_add, Nat.pow_add]
          ring
      _ = digits * unitsOfOne * 10 ^ (exponent.toNat + (-(exponent - places)).toNat) := by rw [balance]
      _ = digits * 10 ^ exponent.toNat * unitsOfOne * 10 ^ (-(exponent - places)).toNat := by
          rw [Nat.pow_add]
          ring

theorem ofDecimal_zero (negative : Bool) (exponent : Int) : ofDecimal negative 0 exponent = zero negative := by
  simp [ofDecimal]

private theorem ofQuotient_sign {num den : Nat} {ordinal : Ordinal}
    (rounds : ofQuotient false num den = .finite false ordinal) (negative : Bool) :
    ofQuotient negative num den = .finite negative ordinal := by
  unfold ofQuotient at rounds ⊢
  dsimp only at rounds ⊢
  split_ifs at rounds ⊢ with fits
  injection rounds with _ same
  rw [same]

/-- The sign of a decimal is the sign of its double. -/
theorem ofDecimal_sign {digits : Nat} {exponent : Int} {ordinal : Ordinal}
    (rounds : ofDecimal false digits exponent = .finite false ordinal) (negative : Bool) :
    ofDecimal negative digits exponent = .finite negative ordinal := by
  by_cases none : digits = 0
  · rw [none, ofDecimal_zero, zero] at rounds ⊢
    injection rounds with _ same
    rw [same]
  · rw [ofDecimal_quotient _ none] at rounds ⊢
    exact ofQuotient_sign rounds negative

/-! ## Reading back -/

private theorem roundHalfEven_exact (n : Nat) {den : Nat} (pos : 0 < den) : roundHalfEven (n * den) den = n := by
  simp [roundHalfEven, Nat.mul_div_cancel _ pos, pos]

/-- What an ordinal stands for is nearest to its own double. -/
theorem nearestOrdinal_units (ordinal : Nat) : nearestOrdinal (units ordinal) 1 = ordinal := by
  have shift : (units ordinal).log2 - 52 = scale ordinal := by
    by_cases subnormal : ordinal < 2 * binade
    · have level : scale ordinal = 0 := by
        have := (Nat.div_lt_iff_lt_mul (by decide)).mpr subnormal
        unfold scale
        omega
      have small : units ordinal < 2 ^ 53 := by
        simp only [units, significand, level, Nat.zero_mul, Nat.sub_zero, Nat.pow_eq, Nat.pow_zero, Nat.mul_one]
        simpa using subnormal
      rw [level]
      by_cases none : units ordinal = 0
      · simp [none]
      · have := (Nat.log2_lt none).mpr small
        omega
    · have level : scale ordinal + 1 = ordinal / binade := by
        have := (Nat.le_div_iff_mul_le (by decide)).mpr (Nat.not_lt.mp subnormal)
        unfold scale
        omega
      have parts := Nat.div_add_mod ordinal binade
      have rest := Nat.mod_lt ordinal (show 0 < binade by decide)
      have figure : significand ordinal = binade + ordinal % binade := by
        have expand : binade * (ordinal / binade) = scale ordinal * binade + binade := by
          rw [← level]
          ring
        unfold significand
        omega
      have low : 2 ^ (52 + scale ordinal) ≤ units ordinal := by
        rw [units, figure, Nat.pow_add]
        exact Nat.mul_le_mul_right _ (Nat.le_add_right _ _)
      have high : units ordinal < 2 ^ (52 + scale ordinal + 1) := by
        have double : 2 ^ (52 + scale ordinal + 1) = (binade + binade) * 2 ^ scale ordinal := by
          rw [show 52 + scale ordinal + 1 = 53 + scale ordinal by omega, Nat.pow_add]
          rfl
        rw [units, figure, double]
        exact Nat.mul_lt_mul_of_pos_right (by omega) (Nat.two_pow_pos _)
      have nonzero : units ordinal ≠ 0 := by
        have := Nat.two_pow_pos (52 + scale ordinal)
        omega
      have atLeast := (Nat.le_log2 nonzero).mpr low
      have below := (Nat.log2_lt nonzero).mpr high
      omega
  have remaining : scale ordinal * binade ≤ ordinal :=
    (Nat.mul_le_mul_right binade (Nat.sub_le (ordinal / binade) 1)).trans (Nat.div_mul_le_self ordinal binade)
  have rounded : roundHalfEven (units ordinal) (1 * Nat.pow 2 (scale ordinal)) = significand ordinal := by
    rw [Nat.one_mul]
    exact roundHalfEven_exact _ (Nat.two_pow_pos _)
  simp only [nearestOrdinal, Nat.div_one, shift, rounded, significand]
  omega

/-- The exact expansion of a double reads back. -/
private theorem ofDecimal_exact (ordinal : Ordinal) :
    ofDecimal false (Decimal.exact ordinal).digits (Decimal.exact ordinal).exponent = .finite false ordinal := by
  have fits : nearestOrdinal (units ordinal) 1 < 2047 * binade := by
    rw [nearestOrdinal_units]
    exact ordinal.isLt
  have whole : ofQuotient false (units ordinal) 1 = .finite false ordinal := by
    simp only [ofQuotient, dif_pos fits, finite.injEq, true_and]
    exact Fin.ext (nearestOrdinal_units ordinal)
  by_cases none : units ordinal = 0
  · have same : ofQuotient false (units ordinal) 1 = zero false := by
      rw [none]
      exact ofQuotient_tiny false (by decide)
    simp only [Decimal.exact, none, Nat.zero_mul, ofDecimal_zero]
    rw [← same, whole]
  · have digit : units ordinal * Nat.pow 5 1074 ≠ 0 := Nat.mul_ne_zero none (by decide +kernel)
    rw [Decimal.exact, ofDecimal_quotient false digit, ← whole]
    refine ofQuotient_congr false (by positivity) (by decide) ?_
    have tens : (10 : Nat) ^ (1074 : Nat) = Nat.pow 5 1074 * unitsOfOne := by decide +kernel
    have level : (-1074 : Int).toNat = 0 := by decide
    have depth : (-(-1074 : Int)).toNat = 1074 := by decide
    rw [level, depth, tens, Nat.pow_zero, Nat.mul_one, Nat.mul_one, Nat.mul_assoc]

/-- Of the decimals around an expansion only one that reads back is taken. -/
private theorem readsAs_of_neighbour {expansion near : Decimal} {drop : Nat} {ordinal : Ordinal}
    (found : expansion.neighbour? drop ordinal = some near) : near.readsAs ordinal = true := by
  unfold Decimal.neighbour? at found
  dsimp only at found
  split at found
  · injection found with same
    subst same
    split_ifs <;> assumption
  · injection found with same
    subst same
    assumption
  · injection found with same
    subst same
    assumption
  · exact absurd found (by simp)

private theorem readsAs_getD {expansion : Decimal} {ordinal : Ordinal} (reads : expansion.readsAs ordinal = true)
    {best : Option Decimal} (found : ∀ near, best = some near → near.readsAs ordinal = true) :
    (best.getD expansion).readsAs ordinal = true := by
  cases best with
  | none => exact reads
  | some near => exact found near rfl

/-- The shortest decimal of a double reads back. -/
theorem readsAs_shortest (ordinal : Ordinal) : (Decimal.shortest ordinal).readsAs ordinal = true := by
  refine readsAs_getD (decide_eq_true (ofDecimal_exact ordinal)) fun near found => ?_
  obtain ⟨k, _, taken⟩ := List.exists_of_findSome?_eq_some found
  exact readsAs_of_neighbour taken

theorem ofDecimal_shortest (ordinal : Ordinal) :
    ofDecimal false (Decimal.shortest ordinal).digits (Decimal.shortest ordinal).exponent =
      .finite false ordinal :=
  of_decide_eq_true (readsAs_shortest ordinal)

/-- A double that is not zero has a shortest decimal with a digit. -/
theorem digits_shortest_ne_zero {ordinal : Ordinal} (nonzero : ordinal.val ≠ 0) :
    (Decimal.shortest ordinal).digits ≠ 0 := by
  intro none
  have reads := ofDecimal_shortest ordinal
  rw [none, ofDecimal_zero, zero] at reads
  injection reads with _ same
  exact nonzero (congrArg Fin.val same).symm

end HomeTiles.Double
