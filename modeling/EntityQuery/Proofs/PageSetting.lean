import EntityQuery.Proofs.Reading
import EntityQuery.Query

/-!
# Page settings

A limit or an offset is looked at twice: a strict builder compares it with zero when it is given,
and a compilation reads it as an integer, by other rules and much later. Both are about the exact
number that the value is.

* `Query.checkPage_eq` is the check of a builder: it takes what `Query.takesPage` says.
* `Value.IsPage` is a setting that a strict builder can hold, and `Value.IsPage.nonneg` says that
  it is never read as a negative integer.
-/

namespace EntityQuery

namespace Binary64

/-- Is the number below zero, by `value?`? `isNegative` looks at the sign and the mantissa instead,
and `-0` is where one could expect a difference. -/
def isBelowZero : Binary64 → Bool
  | .nan _ => false
  | .infinity n => n
  | .finite n m e => decide ((signed n m : ℚ) * 2 ^ e < 0)

theorem signed_neg_iff (n : Bool) (m : Nat) : signed n m < 0 ↔ n = true ∧ m ≠ 0 := by
  cases n <;> simp [signed, Nat.pos_iff_ne_zero]

theorem isNegative_eq_isBelowZero (x : Binary64) : x.isNegative = x.isBelowZero := by
  cases x with
  | nan _ | infinity _ => rfl
  | finite n m e =>
      have pos : (0 : ℚ) < 2 ^ e := zpow_pos (by decide) e
      have below : (signed n m : ℚ) * 2 ^ e < 0 ↔ n = true ∧ m ≠ 0 := by
        rw [mul_neg_iff, Int.cast_lt_zero, signed_neg_iff]
        simp [pos, not_lt_of_gt pos]
      rw [Bool.eq_iff_iff, isBelowZero, decide_eq_true_iff, below]
      simp [isNegative]

/-- What is not `isBelowZero` has no negative value. A `Binary64` that is no number has no value at
all. -/
theorem nonneg_of_value? {x : Binary64} {q : ℚ} (above : x.isBelowZero = false)
    (value : x.value? = some q) : 0 ≤ q := by
  cases x with
  | nan _ | infinity _ => cases value
  | finite n m e =>
      cases value
      exact not_lt.mp (of_decide_eq_false above)

end Binary64

/-! ## The check of a builder -/

namespace Value

/-- Is the value a number? Truth values are. -/
def isNumber (v : Value) : Bool :=
  match v.content with
  | .bool _ | .int _ | .float _ => true
  | _ => false

/-- Is the value a number below zero? -/
def isBelowZero (v : Value) : Bool :=
  match v.content with
  | .int n => n < 0
  | .float x => x.isBelowZero
  | _ => false

/-- Can the value be written out, as far as it is an integer? -/
def isWritableNumber (v : Value) : Bool :=
  match v.content with
  | .int n => Decimal.isWritable n
  | _ => true

/-- The text of a number: `writeInteger` decides whether an integer has one, and every other number
has one. `content` goes through places, so the induction is on the places that a number can stand
behind. -/
theorem display_of_isNumber {v : Value} (h : v.isNumber = true) :
    if v.isWritableNumber then ∃ s, v.display = .ok s else v.display = .error .tooManyDigits := by
  have displayed : ∀ (v : Value) (place : Option Nat), v.isNumber = true →
      if v.isWritableNumber then ∃ s, v.describeIn .displayed [] place = .ok s
      else v.describeIn .displayed [] place = .error .tooManyDigits := by
    intro v
    induction v using Value.content.induct with
    | case1 number look ih => exact fun _ h => ih (some number) h
    | case2 v notObject =>
        intro place h
        cases v with
        | bool _ | float _ => exact ⟨_, rfl⟩
        | int n =>
            change if Decimal.isWritable n then ∃ s, writeInteger n = .ok s
              else writeInteger n = .error .tooManyDigits
            cases writable : Decimal.isWritable n with
            | true => exact ⟨_, writeInteger_eq_ok writable⟩
            | false => exact writeInteger_eq_error writable
        | object _ look => exact absurd rfl (notObject _ look)
        | _ => cases h
  exact displayed v Option.none h

/-- A setting of the page that a strict builder can hold: nothing, as in the beginning, or a number
that is not `isBelowZero`. -/
def IsPage (v : Value) : Prop :=
  v.isNone = true ∨ v.isNumber = true ∧ v.isBelowZero = false

/-- Such a setting is never read as a negative integer, also where `integer?` reads a text or a
float. -/
theorem IsPage.nonneg {v : Value} (h : v.IsPage) {n : Int} (read : v.integer? = some n) :
    0 ≤ n := by
  rcases h with isNone | ⟨number, above⟩
  · simp [integer?, content_of_isNone isNone, spelling?, content, asText?] at read
  · simp only [isNumber, isBelowZero, integer?] at number above read
    cases seen : v.content with
    | bool b =>
        simp only [seen, Option.some.injEq] at read
        cases b <;> omega
    | int i =>
        simp only [seen, Option.some.injEq, decide_eq_false_iff_not] at read above
        omega
    | float x =>
        simp only [seen, Option.bind_eq_some_iff] at read above
        obtain ⟨q, value, read⟩ := read
        split at read
        · cases read
          exact Rat.num_nonneg.mpr (Binary64.nonneg_of_value? above value)
        · cases read
    | _ => simp [seen] at number

end Value

namespace Query

/-- Does a builder take the setting of the page? A strict one takes numbers that are not
`isBelowZero`, and any other one takes everything. -/
def takesPage (strict v : Value) : Bool :=
  !strict.truthy || v.isNumber && !v.isBelowZero

/-- `isNegative` compares numbers with zero, and fails for everything else. -/
theorem isNegative_eq (v : Value) :
    isNegative v = if v.isNumber then .ok v.isBelowZero else .error (.unordered v.typeName) := by
  rw [← Value.typeName_content]
  unfold isNegative Value.isNumber Value.isBelowZero
  cases v.content <;> simp [Binary64.isNegative_eq_isBelowZero]

/-- What goes wrong where a number below zero is refused: the wording of a `Rejection` has the text
of the number in it, and `display` can fail first. -/
def refusal (field : PageField) (v : Value) : Failure :=
  match v.display with
  | .ok shown => .rejected (.negative field shown v)
  | .error e => e

/-- `checkPage` by `takesPage` and `refusal`: a number is refused for being below zero, and anything
else as it has no order. -/
theorem checkPage_eq {config dflt strict : Value}
    (configured : config.content = .config dflt strict) (field : PageField) (v : Value) :
    checkPage config field v =
      if takesPage strict v then .ok ()
      else if v.isNumber then .error (refusal field v)
      else .error (.unordered v.typeName) := by
  have isStrict : isStrict config = .ok strict.truthy := by
    simp only [Query.isStrict, configured]
  unfold checkPage takesPage
  rw [isStrict, isNegative_eq]
  cases strict.truthy with
  | false => rfl
  | true =>
      cases v.isNumber with
      | false => rfl
      | true => cases v.isBelowZero <;> unfold refusal <;> cases v.display <;> rfl

end Query

end EntityQuery
