import HomeTiles.Double

/-!
# Decimal text of doubles: the fewest digits that read back

A finite double has an exact decimal expansion. `shortest` looks for the least
number of leading digits for which one of the two neighbours on that decimal
grid rounds to the double again, taking the nearer one, and `Double.text` lays
the digits out: positional while the decimal exponent is at least -4 and below
16, in scientific form otherwise.
-/

namespace HomeTiles

/-- The number `digits * 10 ^ exponent`. -/
structure Decimal where
  digits : Nat
  exponent : Int
  deriving DecidableEq, Repr

namespace Decimal

/-! ## The digits -/

/-- The exact expansion of a finite double, a whole number of `10 ^ -1074`. -/
def exact (ordinal : Nat) : Decimal := ⟨Double.units ordinal * Nat.pow 5 1074, -1074⟩

/-- Whether a decimal rounds to the double of an ordinal. -/
def readsAs (d : Decimal) (ordinal : Double.Ordinal) : Bool :=
  decide (Double.ofDecimal false d.digits d.exponent = .finite false ordinal)

/-- Of the two decimals around an expansion that end `drop` places earlier, the one that
reads back, the nearer one if both do, and the even one of two that are equally near. -/
def neighbour? (expansion : Decimal) (drop : Nat) (ordinal : Double.Ordinal) : Option Decimal :=
  let step := Nat.pow 10 drop
  let below : Decimal := ⟨expansion.digits / step, expansion.exponent + drop⟩
  let above : Decimal := { below with digits := below.digits + 1 }
  let twice := 2 * (expansion.digits % step)
  let belowIsNearer := twice < step || (twice == step && below.digits % 2 == 0)
  match below.readsAs ordinal, above.readsAs ordinal with
  | true, true => some (if belowIsNearer then below else above)
  | true, false => some below
  | false, true => some above
  | false, false => none

/-- The shortest decimal that rounds to a double of at most 17 digits, the exact expansion
standing in should there be none. -/
def shortest (ordinal : Double.Ordinal) : Decimal :=
  let expansion := exact ordinal
  let places := (Nat.toDigits 10 expansion.digits).length
  ((List.range 17).findSome? fun k => expansion.neighbour? (places - (k + 1)) ordinal).getD expansion

/-! ## The layout -/

def trimZeros (digits : List Char) : List Char := (digits.reverse.dropWhile (· = '0')).reverse

/-- Digits with a point after the first `point` of them, zeros filled in on either side. -/
def positional (digits : List Char) (point : Int) : List Char :=
  if point ≤ 0 then '0' :: '.' :: (List.replicate (-point).toNat '0' ++ digits)
  else if digits.length ≤ point.toNat then
    digits ++ List.replicate (point.toNat - digits.length) '0' ++ ['.', '0']
  else digits.take point.toNat ++ '.' :: digits.drop point.toNat

/-- Digits with a point after the first of them and a signed exponent of at least two places. -/
def scientific (digits : List Char) (exponent : Int) : List Char :=
  let magnitude := Nat.toDigits 10 exponent.natAbs
  let padded := if magnitude.length < 2 then '0' :: magnitude else magnitude
  let mantissa := match digits with
    | first :: rest@(_ :: _) => first :: '.' :: rest
    | single => single
  mantissa ++ 'e' :: (if exponent < 0 then '-' else '+') :: padded

/-- The text of a decimal that is not zero. -/
def text (d : Decimal) : List Char :=
  let digits := Nat.toDigits 10 d.digits
  let point := d.exponent + digits.length
  let kept := trimZeros digits
  if -4 ≤ point - 1 ∧ point - 1 < 16 then positional kept point else scientific kept (point - 1)

end Decimal

/-- The words for the doubles that are not numbers. -/
structure SpecialWords where
  nan : String
  infinity : String

def Double.text (words : SpecialWords) : Double → List Char
  | .nan _ => words.nan.toList
  | .infinity negative => sign negative ++ words.infinity.toList
  | .finite negative ordinal =>
    sign negative ++ if ordinal.val = 0 then ['0', '.', '0'] else (Decimal.shortest ordinal).text
where
  sign (negative : Bool) : List Char := if negative then ['-'] else []

end HomeTiles
