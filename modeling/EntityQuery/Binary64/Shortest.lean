import EntityQuery.Decimal.Integer
import EntityQuery.Binary64.Basic

/-!
# The shortest decimal text of a floating-point number

A finite number is written with the fewest significant digits that read back as the same
number, and among the texts with that many digits with the one nearest to it.

* The reals that round to the number form an interval around it, which contains its ends
  exactly if the mantissa is even. `interval` gives its ends, in quarters of the last binary
  place so that they are integers.
* On the grid of the multiples of `10 ^ k` only the two neighbours of the number matter: if
  any point of the grid lies in the interval, one of them does. `gridPoint?` tests them in
  exact arithmetic, and `shortestDigits` takes the coarsest grid with a hit.
* `Layout` holds what is left to the format: which magnitudes are written positionally,
  and the least number of digits of an exponent.
-/

namespace EntityQuery.Binary64

/-- The number, and the ends of the interval of the reals that round to it, in units of
`2 ^ (exponent - 2)`. Below a full mantissa's first value the numbers lie twice as dense. -/
def interval (mantissa : Nat) (exponent : Int) : Nat × Nat × Nat :=
  let below := if mantissa = Nat.pow 2 (precision - 1) ∧ minExponent < exponent then 1 else 2
  (4 * mantissa - below, 4 * mantissa, 4 * mantissa + 2)

/-- A comparison of `c · 10 ^ k` with `x · 2 ^ e` as one of naturals: the factors of `c`
and of `x`. -/
def gridFactors (e k : Int) : Nat × Nat :=
  (Nat.pow 10 k.toNat * Nat.pow 2 (-e).toNat, Nat.pow 2 e.toNat * Nat.pow 10 (-k).toNat)

/-- The multiple of `10 ^ k` nearest to a positive number that reads back as it, if one of
its two neighbours does; of two equally near ones the even one. -/
def gridPoint? (mantissa : Nat) (exponent k : Int) : Option Nat :=
  let (low, value, high) := interval mantissa exponent
  let (f, g) := gridFactors (exponent - 2) k
  let inside (c : Nat) : Bool :=
    if mantissa % 2 = 0 then low * g ≤ c * f && c * f ≤ high * g
    else low * g < c * f && c * f < high * g
  let c := value * g / f
  let r := value * g % f
  let upper := f < 2 * r || (2 * r == f && c % 2 == 1)
  match inside c, inside (c + 1) with
  | true, true => some (if upper then c + 1 else c)
  | true, false => some c
  | false, true => some (c + 1)
  | false, false => none

/-- The power of ten of the first significant digit of `num / den`. -/
def leadingPower (num den : Nat) : Int :=
  if den ≤ num then (Decimal.digits (num / den)).length - 1
  else -((Decimal.digits ((den - 1) / num)).length : Int)

/-- The number of significant digits with which every number reads back. -/
def maxDigits : Nat := 17

/-- The fewest significant digits of a positive number, without trailing zeros, and the
position of the decimal point: how many digits stand before it. -/
def shortestDigits (mantissa : Nat) (exponent : Int) : List Char × Int :=
  let power := leadingPower (mantissa * Nat.pow 2 exponent.toNat) (Nat.pow 2 (-exponent).toNat)
  let hit := (List.range maxDigits).findSome? fun (n : Nat) =>
    (gridPoint? mantissa exponent (power - n)).map fun c => (c, power - n)
  let (c, k) := hit.getD (0, 0)
  let digits := Decimal.digits c
  ((digits.reverse.dropWhile (· == '0')).reverse, digits.length + k)

/-- How a decimal number is laid out. -/
structure Layout where
  /-- The least number of digits before the point in positional notation; a negative one
  counts the zeros behind the point. -/
  leastPoint : Int
  /-- The greatest number of digits before the point in positional notation. -/
  greatestPoint : Int
  /-- The least number of digits of an exponent. -/
  exponentWidth : Nat

/-- Numbers from `0.0001` up to sixteen digits are written positionally, with a digit on
both sides of the point; others with a signed exponent of two digits or more. -/
def plain : Layout := ⟨-3, 16, 2⟩

/-- Significant digits around a decimal point. -/
def positional (digits : List Char) (point : Int) : List Char :=
  if point ≤ 0 then '0' :: '.' :: List.replicate (-point).toNat '0' ++ digits
  else
    let whole := digits.take point.toNat
    let fraction := digits.drop point.toNat
    whole ++ List.replicate (point.toNat - digits.length) '0' ++ '.' ::
      (if fraction.isEmpty then ['0'] else fraction)

/-- Significant digits with an exponent. -/
def scientific (width : Nat) (digits : List Char) (point : Int) : List Char :=
  let exponent := Decimal.digits (point - 1).natAbs
  digits.take 1 ++ (if digits.length ≤ 1 then [] else '.' :: digits.drop 1) ++
    'e' :: (if point - 1 < 0 then '-' else '+') ::
    List.replicate (width - exponent.length) '0' ++ exponent

/-- Significant digits in the notation that their magnitude calls for. -/
def Layout.lay (layout : Layout) (digits : List Char) (point : Int) : List Char :=
  if layout.leastPoint ≤ point ∧ point ≤ layout.greatestPoint then positional digits point
  else scientific layout.exponentWidth digits point

/-- The text of a number. -/
def write : Binary64 → String
  | .nan _ => "nan"
  | .infinity negative => if negative then "-inf" else "inf"
  | .finite negative m e =>
      let text :=
        if m = 0 then ['0', '.', '0']
        else
          let (digits, point) := shortestDigits m e
          plain.lay digits point
      String.ofList (if negative then '-' :: text else text)

end EntityQuery.Binary64
