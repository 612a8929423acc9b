import EntityQuery.Decimal.Integer
import EntityQuery.Text.Digit
import EntityQuery.Binary64.Basic

/-!
# Reading floating-point numbers

A text between blanks is a number if it is, behind an optional sign, one of the words for an
infinity or a not-a-number in any case of letters, or decimal digits of any script with an
optional point and an optional exponent. Its value is the exact decimal value rounded to the nearest
floating-point number; of two equally near ones the one with the even mantissa is taken.

* `roundQuotient` rounds a quotient of naturals to a natural, `roundRatio` to a
  floating-point number.
* `ofDecimal` rounds `digits · 10 ^ power`; powers far outside the range are settled without
  computing them.
-/

namespace EntityQuery.Binary64

/-- The natural number nearest to a quotient; of two equally near ones, the even one. -/
def roundQuotient (num den : Nat) : Nat :=
  let q := num / den
  let r := num % den
  if 2 * r < den then q
  else if den < 2 * r then q + 1
  else if q % 2 = 0 then q else q + 1

/-- The quotient `num / (den · 2 ^ e)` as a pair of naturals. -/
def descale (num den : Nat) (e : Int) : Nat × Nat :=
  (num * Nat.pow 2 (-e).toNat, den * Nat.pow 2 e.toNat)

/-- The exponent at which the quotient of two positive naturals has a full mantissa, or the
least exponent if that is greater. -/
def fittingExponent (num den : Nat) : Int :=
  let e := (num.log2 : Int) - den.log2 - (precision - 1 : Nat)
  let (n, d) := descale num den e
  max minExponent (if n / d < Nat.pow 2 (precision - 1) then e - 1 else e)

/-- The number nearest to a quotient of naturals. -/
def roundRatio (negative : Bool) (num den : Nat) : Binary64 :=
  if num = 0 then zero negative
  else
    let e := fittingExponent num den
    let (n, d) := descale num den e
    let m := roundQuotient n d
    let (m, e) := if m = Nat.pow 2 precision then (Nat.pow 2 (precision - 1), e + 1) else (m, e)
    if maxExponent < e then .infinity negative else .finite negative m e

/-- The number nearest to `± digits · 10 ^ power`. -/
def ofDecimal (negative : Bool) (digits : Nat) (power : Int) : Binary64 :=
  let magnitude := (Decimal.digits digits).length + power
  if digits = 0 ∨ magnitude < -330 then zero negative
  else if 310 < magnitude then .infinity negative
  else roundRatio negative (digits * Nat.pow 10 power.toNat) (Nat.pow 10 (-power).toNat)

/-- Reads digit groups that may be missing altogether. -/
def readOptionalDigits? (cs : List Char) : Option (Nat × Nat) :=
  if cs.isEmpty then some (0, 0) else Decimal.readDigits? cs

/-- Reads an exponent with an optional sign. -/
def readExponent? (cs : List Char) : Option Int :=
  let (negative, unsigned) := Decimal.splitSign cs
  (Decimal.readDigits? unsigned).map fun (n, _) => if negative then -(n : Int) else n

/-- Reads digits with an optional point and an optional exponent as a decimal value: its
digits and the power of ten they are multiplied with. -/
def readDecimal? (cs : List Char) : Option (Nat × Int) := do
  let (mantissa, exponent) := Decimal.splitAtFirst (fun c => c == 'e' || c == 'E') cs
  let (whole, fraction) := Decimal.splitAtFirst (· == '.') mantissa
  let fraction := fraction.getD []
  if whole.isEmpty && fraction.isEmpty then none
  let (high, _) ← readOptionalDigits? whole
  let (low, places) ← readOptionalDigits? fraction
  let power ← match exponent with
    | none => some 0
    | some cs => readExponent? cs
  some (high * Nat.pow 10 places + low, power - places)

/-- Reads a text as a number; a not-a-number gets the given mark. -/
def read? (mark : Nat) (s : String) : Option Binary64 :=
  let (negative, unsigned) := Decimal.splitSign (Text.trim (s.toList.map Text.toAsciiDigit))
  let word := String.ofList (unsigned.map Char.toLower)
  if word = "nan" then some (.nan mark)
  else if word = "inf" ∨ word = "infinity" then some (.infinity negative)
  else (readDecimal? unsigned).map fun (digits, power) => ofDecimal negative digits power

end EntityQuery.Binary64
