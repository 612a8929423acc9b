/-!
# Binary floating-point numbers of 64 bits

The library computes nothing with floating-point numbers: it reads them, writes them, compares
them and turns integral ones into integers. So a number is kept as the exact value that it
has, and every operation is exact arithmetic on naturals and integers.

* A finite number is `± mantissa · 2 ^ exponent`. In *canonical* form, which reading
  produces, the mantissa has 53 bits, or fewer at the least exponent. Zero has a sign.
* A not-a-number differs from everything, itself included. It carries a mark that tells one
  reading from another, for the places that ask whether two things are the same thing and
  not whether they are equal.
-/

namespace EntityQuery

/-- A floating-point number. -/
inductive Binary64 where
  /-- No number; the mark tells one reading of it from another. -/
  | nan (mark : Nat)
  /-- An infinite number. -/
  | infinity (negative : Bool)
  /-- The number `± mantissa · 2 ^ exponent`. -/
  | finite (negative : Bool) (mantissa : Nat) (exponent : Int)
  deriving DecidableEq, Repr

namespace Binary64

/-- The least exponent. -/
def minExponent : Int := -1074

/-- The greatest exponent of a canonical number. -/
def maxExponent : Int := 971

/-- The number of bits of a full mantissa. -/
def precision : Nat := 53

/-- Zero with a sign. -/
def zero (negative : Bool) : Binary64 := .finite negative 0 minExponent

/-- The mantissa with the sign of the number. -/
def signed (negative : Bool) (mantissa : Nat) : Int :=
  if negative then -(mantissa : Int) else mantissa

/-- The integer `m · 2 ^ k` for a `k` that is not negative. -/
def scale (m : Int) (k : Int) : Int := m * (Nat.pow 2 k.toNat : Nat)

/-- Are two numbers equal? The two zeros are. -/
def equal : Binary64 → Binary64 → Bool
  | .finite n₁ m₁ e₁, .finite n₂ m₂ e₂ =>
      scale (signed n₁ m₁) (e₁ - min e₁ e₂) == scale (signed n₂ m₂) (e₂ - min e₁ e₂)
  | .infinity n₁, .infinity n₂ => n₁ == n₂
  | _, _ => false

/-- Are two numbers equal, or the same reading of a not-a-number? -/
def alike : Binary64 → Binary64 → Bool
  | .nan a, .nan b => a == b
  | x, y => x.equal y

/-- Is the number equal to the integer? -/
def equalInt : Binary64 → Int → Bool
  | .finite n m e, i => scale (signed n m) e == scale i (-e)
  | _, _ => false

/-- Is the number less than zero? Neither zero is, and a not-a-number is not. -/
def isNegative : Binary64 → Bool
  | .nan _ => false
  | .infinity n => n
  | .finite n m _ => n && m != 0

/-- Is the number one of the two zeros? -/
def isZero : Binary64 → Bool
  | .finite _ m _ => m == 0
  | _ => false

/-- Is the number neither infinite nor a not-a-number? -/
def isFinite : Binary64 → Bool
  | .finite .. => true
  | _ => false

/-- The integer a finite number is, if it is one. -/
def toInt? : Binary64 → Option Int
  | .finite n m e =>
      if 0 ≤ e then some (scale (signed n m) e)
      else if m % Nat.pow 2 (-e).toNat = 0 then some (signed n (m / Nat.pow 2 (-e).toNat))
      else none
  | _ => none

/-- A not-a-number is not equal to itself. -/
@[simp] theorem equal_nan (a b : Nat) : equal (.nan a) (.nan b) = false := rfl

/-- Every number is alike to itself. -/
@[simp] theorem alike_self (x : Binary64) : x.alike x = true := by
  cases x <;> simp [alike, equal]

end Binary64

end EntityQuery
