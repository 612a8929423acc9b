import EntityQuery.Binary64.Reading

/-!
# Sums of floating-point numbers

The exact sum of two numbers, rounded once to the nearest number. `ofInt?` is the number
nearest to an integer, for sums in which one side is an integer.

A sum of zero is a positive zero unless both sides are negative ones, and the sum of the two
infinities is no number.
-/

namespace EntityQuery.Binary64

/-- The number nearest to an integer, if the integer is not too large for one. -/
def ofInt? (n : Int) : Option Binary64 :=
  match roundRatio (n < 0) n.natAbs 1 with
  | .infinity _ => none
  | x => some x

/-- The number nearest to `m · 2 ^ e`, where zero has the given sign. -/
def ofScaled (negativeZero : Bool) (m e : Int) : Binary64 :=
  if m = 0 then zero negativeZero
  else roundRatio (m < 0) (m.natAbs * Nat.pow 2 e.toNat) (Nat.pow 2 (-e).toNat)

/-- The sum of two numbers; a not-a-number that arises gets the given mark. -/
def add (mark : Nat) : Binary64 → Binary64 → Binary64
  | .nan _, _ | _, .nan _ => .nan mark
  | .infinity a, .infinity b => if a = b then .infinity a else .nan mark
  | .infinity a, .finite .. | .finite .., .infinity a => .infinity a
  | .finite n₁ m₁ e₁, .finite n₂ m₂ e₂ =>
      let e := min e₁ e₂
      ofScaled (n₁ && n₂) (scale (signed n₁ m₁) (e₁ - e) + scale (signed n₂ m₂) (e₂ - e)) e

/-- The order of the two sides does not matter. -/
theorem add_comm (mark : Nat) (x y : Binary64) : add mark x y = add mark y x := by
  cases x <;> cases y <;> simp only [add]
  · rename_i a b
    by_cases h : a = b
    · simp [h]
    · simp [h, Ne.symm h]
  · rename_i n₁ m₁ e₁ n₂ m₂ e₂
    rw [Int.min_comm, Bool.and_comm, Int.add_comm]

end EntityQuery.Binary64
