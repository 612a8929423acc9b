import EntityQuery.Text.Blank

/-!
# Integers as decimal text

* `write` gives the one text of an integer: a minus sign for a negative one, then the digits
  without leading zeros. It is defined for integers of any size; that a caller gets the text of
  those only that have at most `digitLimit` digits is left to who asks `isWritable`.
* `read` is more generous. Between blanks it takes an optional sign, leading zeros with any
  underscores among them, digits in groups separated by single underscores, and a fraction
  that consists of zeros only. Where there is no sign in front or a plus, a minus may stand
  behind the leading zeros instead.
* Reading goes in two steps: `simplify?` takes all of that away, and `readPlain?` reads what is
  left, a minus sign and at most `digitLimit` digits. That a text has too many digits is said
  only where they are what it starts with. A sign is no digit, neither for `read` nor for
  `isWritable`, so both stop at the same integers.
-/

namespace EntityQuery.Decimal

/-- The digits of a natural number. -/
def digits (n : Nat) : List Char := Nat.toDigits 10 n

/-- The text of an integer. -/
def write : Int → String
  | .ofNat n => String.ofList (digits n)
  | .negSucc n => String.ofList ('-' :: digits (n + 1))

/-- The greatest number of digits that an integer is read from or written with. -/
def digitLimit : Nat := 4300

/-- Does an integer have a text that a caller gets? -/
def isWritable (n : Int) : Bool := (digits n.natAbs).length ≤ digitLimit

/-- Why a text is no integer. -/
inductive ReadError where
  /-- The text has another form. -/
  | malformed
  /-- The text starts with more than `digitLimit` digits. -/
  | tooLong
  deriving DecidableEq, Repr

/-- The value of an ASCII digit. -/
def digitValue? (c : Char) : Option Nat :=
  if '0' ≤ c ∧ c ≤ '9' then some (c.toNat - '0'.toNat) else none

/-- Reads digits in groups separated by single underscores, on top of the digits read so far:
their value and their number. `inside` says that the last character was a digit, which is
when an underscore may follow and when the text may end. -/
def readGroups (value count : Nat) (inside : Bool) : List Char → Option (Nat × Nat)
  | [] => if inside then some (value, count) else none
  | c :: cs =>
      match digitValue? c with
      | some d => readGroups (value * 10 + d) (count + 1) true cs
      | none => if c = '_' && inside then readGroups value count false cs else none

/-- The value and the number of the digits of a text of digit groups. -/
def readDigits? (cs : List Char) : Option (Nat × Nat) := readGroups 0 0 false cs

/-- Splits off a sign; the flag says whether it was a minus. -/
def splitSign : List Char → Bool × List Char
  | '-' :: cs => (true, cs)
  | '+' :: cs => (false, cs)
  | cs => (false, cs)

/-- Splits a text at the first character that satisfies `p`, which goes to neither part. -/
def splitAtFirst (p : Char → Bool) (cs : List Char) : List Char × Option (List Char) :=
  (cs.takeWhile fun c => !p c,
    match cs.dropWhile fun c => !p c with
    | [] => none
    | _ :: rest => some rest)

/-! ## Simplifying -/

/-- Is the character a digit other than zero? -/
def isLeadingDigit (c : Char) : Bool := c != '0' && (digitValue? c).isSome

/-- The rest of a text behind leading zeros, of which `last` was the last character. The rest
starts with another digit or with a minus sign; where there is none, or a point, `last` stays. -/
def dropZerosAfter (last : Char) : List Char → Option (List Char)
  | [] => some [last]
  | c :: cs =>
      if c = '0' ∨ c = '_' then dropZerosAfter c cs
      else if c = '.' then some (last :: c :: cs)
      else if isLeadingDigit c ∨ c = '-' then some (c :: cs)
      else none

/-- The text without its leading zeros and the underscores among them, if it starts with a
digit at all. -/
def dropZeros? : List Char → Option (List Char)
  | [] => none
  | c :: cs =>
      if c = '0' then dropZerosAfter c cs
      else if isLeadingDigit c then some (c :: cs)
      else none

/-- The text without a fraction that consists of zeros only. -/
def dropZeroFraction (cs : List Char) : List Char :=
  match splitAtFirst (· == '.') cs with
  | (whole, some fraction) => if !fraction.isEmpty && fraction.all (· == '0') then whole else cs
  | (_, none) => cs

/-- Is an underscore followed by another one or by the end of the text? -/
def hasLooseUnderscore : List Char → Bool
  | [] => false
  | [c] => c == '_'
  | c :: d :: cs => (c == '_' && d == '_') || hasLooseUnderscore (d :: cs)

/-- The text without the underscores between its groups of digits; it stays as it is where
they do not separate groups. -/
def joinGroups (cs : List Char) : List Char :=
  if cs.head? == some '_' || hasLooseUnderscore cs then cs else cs.filter (· != '_')

/-- The text of an integer without anything that does not count, if it starts like one. -/
def simplify? (cs : List Char) : Option (List Char) := do
  let (negative, unsigned) := splitSign (Text.trim cs)
  let rest ← dropZeros? unsigned
  let plain := joinGroups (dropZeroFraction rest)
  return if negative then '-' :: plain else plain

/-! ## Reading -/

/-- Splits off a minus sign. -/
def splitMinus : List Char → Bool × List Char
  | '-' :: cs => (true, cs)
  | cs => (false, cs)

/-- The number of digits that a text starts with, none if the first one is zero. -/
def leadingDigits (cs : List Char) : Nat :=
  if cs.head? = some '0' then 0
  else (cs.takeWhile fun c => (digitValue? c).isSome).length

/-- Reads a text that consists of an optional minus sign and digits, the first of which is
zero only if it is the only one. -/
def readPlain? (cs : List Char) : Option Int :=
  let (negative, unsigned) := splitMinus cs
  if unsigned = ['0'] then some 0
  else if unsigned.isEmpty ∨ leadingDigits unsigned < unsigned.length ∨
      digitLimit < unsigned.length then none
  else
    -- All characters are digits here, by `leadingDigits`.
    let n := unsigned.foldl (fun n c => n * 10 + (digitValue? c).getD 0) 0
    some (if negative then -(n : Int) else n)

/-- Reads a text as an integer. -/
def read (s : String) : Except ReadError Int :=
  -- The digits are counted before the text is simplified, and a minus sign is not one of them.
  if digitLimit < leadingDigits (splitMinus s.toList).2 then .error .tooLong
  else
    match (simplify? s.toList).bind readPlain? with
    | some n => .ok n
    | none => .error .malformed

/-- The least natural number with more than `digitLimit` digits. -/
def leastTooLong : Nat := Nat.pow 10 digitLimit

theorem leastTooLong_pos : 0 < leastTooLong := by
  unfold leastTooLong
  generalize digitLimit = limit
  exact Nat.pow_pos (by decide)

/-- The integers with a text that a caller gets, by their size: `isWritable` counts digits, and
with `leastTooLong` a proof has no digits to count. -/
theorem isWritable_iff {n : Int} : isWritable n = true ↔ n.natAbs < leastTooLong := by
  have positive : 0 < digitLimit := by decide
  rw [isWritable, decide_eq_true_iff]
  unfold digits leastTooLong
  generalize digitLimit = limit at positive ⊢
  exact Nat.length_toDigits_le_iff (by decide) positive

theorem isWritable_eq_false {n : Int} (long : leastTooLong ≤ n.natAbs) : isWritable n = false :=
  Bool.eq_false_iff.mpr fun writable => Nat.not_le.mpr (isWritable_iff.mp writable) long

end EntityQuery.Decimal
