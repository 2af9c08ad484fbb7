/-!
# Doubles: binary64 numbers as exact values

A finite double is a whole number of `2 ^ -1074`, so rounding, comparison and
addition are natural-number arithmetic. The nonnegative finite doubles in
ascending order are numbered by `ordinal`; `Double.units` says which number an
ordinal stands for, and `nearestOrdinal` finds the ordinal nearest to a quotient.
-/

namespace HomeTiles

/-- How many doubles share an exponent and a sign: `2 ^ 52`. -/
abbrev Double.binade : Nat := Nat.pow 2 52

/-- The number of a nonnegative finite double, counted from zero; there are 2047 exponents. -/
abbrev Double.Ordinal := Fin (2047 * Double.binade)

/-- A binary64 number. -/
inductive Double where
  /-- The NaN that texts name, or one that a computation gave. -/
  | nan (computed : Bool)
  | infinity (negative : Bool)
  | finite (negative : Bool) (ordinal : Double.Ordinal)
  deriving DecidableEq, Repr, Inhabited

namespace Double

/-- How many units of `2 ^ -1074` the number one has. -/
def unitsOfOne : Nat := Nat.pow 2 1074

/-! ## What an ordinal stands for -/

/-- The power of two that the significand of an ordinal is scaled by. -/
def scale (ordinal : Nat) : Nat := ordinal / binade - 1

/-- The significand of an ordinal, below `2 ^ 53`. -/
def significand (ordinal : Nat) : Nat := ordinal - scale ordinal * binade

/-- The number that an ordinal stands for, in units of `2 ^ -1074`. -/
def units (ordinal : Nat) : Nat := significand ordinal * Nat.pow 2 (scale ordinal)

/-- The signed number of units of a finite double, zero for the others. -/
def signedUnits : Double → Int
  | .finite false ordinal => units ordinal
  | .finite true ordinal => -(units ordinal : Int)
  | _ => 0

/-! ## Rounding -/

/-- The whole number nearest to a quotient, a half going to the even neighbour. -/
def roundHalfEven (num den : Nat) : Nat :=
  let whole := num / den
  let twice := 2 * (num % den)
  if twice < den then whole
  else if den < twice then whole + 1
  else whole + whole % 2

/-- The ordinal nearest to a quotient of units, as if there were no largest double. -/
def nearestOrdinal (num den : Nat) : Nat :=
  let shift := (num / den).log2 - 52
  shift * binade + roundHalfEven num (den * Nat.pow 2 shift)

/-- The double nearest to a quotient of units; past the largest double it is an infinity. -/
def ofQuotient (negative : Bool) (num den : Nat) : Double :=
  let ordinal := nearestOrdinal num den
  if fits : ordinal < 2047 * binade then .finite negative ⟨ordinal, fits⟩ else .infinity negative

def zero (negative : Bool) : Double := .finite negative ⟨0, by decide⟩

/-- The double nearest to `digits * 10 ^ exponent`, with the sign given.

Exponents that force an infinity or a zero are decided without computing the power. -/
def ofDecimal (negative : Bool) (digits : Nat) (exponent : Int) : Double :=
  if digits = 0 then zero negative
  else if 308 < exponent then .infinity negative
  else if exponent + (digits.log2 / 3 + 1 : Nat) < -323 then zero negative
  else match exponent with
    | .ofNat e => ofQuotient negative (digits * Nat.pow 10 e * unitsOfOne) 1
    | .negSucc e => ofQuotient negative (digits * unitsOfOne) (Nat.pow 10 (e + 1))

def ofUnits (n : Int) : Double := ofQuotient (n < 0) n.natAbs 1

def ofInt (n : Int) : Double := ofUnits (n * unitsOfOne)

/-! ## Comparison and addition -/

def isZero : Double → Bool
  | .finite _ ordinal => ordinal.val == 0
  | _ => false

/-- Equality of the numbers meant: zeros of both signs agree, and the one NaN that texts name is itself. -/
def same : Double → Double → Bool
  | .nan a, .nan b => !a && !b
  | .infinity a, .infinity b => a == b
  | .finite a m, .finite b n => signedUnits (.finite a m) == signedUnits (.finite b n)
  | _, _ => false

/-- Exact equality with an integer. -/
def equalsInt : Double → Int → Bool
  | .finite negative ordinal, n => signedUnits (.finite negative ordinal) == n * unitsOfOne
  | _, _ => false

/-- The sum, rounded once; a NaN or infinities that cancel give a computed NaN. -/
def add : Double → Double → Double
  | .nan _, _ => .nan true
  | _, .nan _ => .nan true
  | .infinity a, .infinity b => if a = b then .infinity a else .nan true
  | .infinity a, .finite _ _ => .infinity a
  | .finite _ _, .infinity b => .infinity b
  | .finite a m, .finite b n =>
    let sum := signedUnits (.finite a m) + signedUnits (.finite b n)
    if sum = 0 then zero (a && b && m.val == 0 && n.val == 0) else ofUnits sum

end Double
end HomeTiles
