import Mathlib.Algebra.Order.Field.Basic
import Mathlib.Algebra.Order.Field.Rat
import EntityQuery.Proofs.Checking

/-!
# Readings

What a check makes of a value is a reading of the value, if it has one, and else a single complaint
about it. The readings are stated here without the checks, by what values are.

* `Binary64.value?` is the exact value of a floating-point number. A number is read as an integer
  if its value is one (`Binary64.toInt?_eq_some_iff`).
* `Value.spelling?`, `Value.byteString?` and `Value.integer?` are the readings as a text, as bytes
  and as an integer; `Message.order?` and `Message.reference?` those of a recorded message.
* `checkText_eq`, `checkBytes_eq`, `checkInteger_eq` and their siblings are the checks in these
  terms.
* Where several checks are made, all complaints are found, in order: `Checked.found_and`.
-/

namespace EntityQuery

namespace Binary64

/-- The exact value of a finite number. `Binary64.toInt?` works on mantissa and exponent; over `ℚ`
what it does has a short description. -/
def value? : Binary64 → Option ℚ
  | .finite n m e => some (signed n m * 2 ^ e)
  | _ => none

theorem signed_mul (n : Bool) (m k : Nat) : signed n (m * k) = signed n m * k := by
  cases n <;> simp [signed]

/-- A signed mantissa is a multiple of a number exactly if the mantissa is. -/
theorem signed_eq_mul_iff (n : Bool) (m k : Nat) (i : Int) (pos : 0 < k) :
    signed n m = i * k ↔ m % k = 0 ∧ signed n (m / k) = i := by
  constructor
  · intro multiple
    have divides : (k : Int) ∣ signed n m := ⟨i, by rw [multiple, Int.mul_comm]⟩
    have whole : k ∣ m := by
      cases n <;> simpa [signed, Int.natCast_dvd_natCast] using divides
    refine ⟨Nat.mod_eq_zero_of_dvd whole, ?_⟩
    rw [← Nat.div_mul_cancel whole, signed_mul] at multiple
    exact Int.eq_of_mul_eq_mul_right (by omega) multiple
  · rintro ⟨whole, rfl⟩
    rw [← signed_mul, Nat.div_mul_cancel (Nat.dvd_of_mod_eq_zero whole)]

/-- `toInt?` finds an integer just if `value?` is that integer, so that `checkIntegerFloat` can be
described without any mantissa. -/
theorem toInt?_eq_some_iff {x : Binary64} {i : Int} :
    x.toInt? = some i ↔ x.value? = some (i : ℚ) := by
  cases x with
  | nan _ | infinity _ => simp [toInt?, value?]
  | finite n m e =>
      by_cases whole : 0 ≤ e
      · obtain ⟨k, rfl⟩ := Int.eq_ofNat_of_zero_le whole
        have scaled : (signed n m : ℚ) * 2 ^ (k : Int) = ((signed n m * 2 ^ k : Int) : ℚ) := by
          rw [zpow_natCast]
          push_cast
          rfl
        simp only [toInt?, value?, if_pos whole, scaled, Option.some.injEq, Rat.intCast_inj]
        simp [scale]
      · obtain ⟨k, rfl⟩ : ∃ k : Nat, e = -k := ⟨(-e).toNat, by omega⟩
        have pos : (0 : ℚ) < 2 ^ k := pow_pos (by decide) k
        -- The mantissa is divided by a power of two, so it has to be a multiple of it.
        have divided : (signed n m : ℚ) * 2 ^ (-(k : Int)) = i ↔
            signed n m = i * (2 ^ k : Nat) := by
          rw [zpow_neg, zpow_natCast, ← div_eq_mul_inv, div_eq_iff pos.ne']
          exact_mod_cast Iff.rfl
        simp only [value?, Option.some.injEq, divided,
          signed_eq_mul_iff n m _ i (Nat.two_pow_pos k), toInt?, if_neg whole, neg_neg,
          Int.toNat_natCast]
        by_cases fits : m % 2 ^ k = 0 <;> simp [fits]

/-- The other way round: where `toInt?` gives up, `value?` is no integer, if there is a value at
all. -/
theorem isInt_of_toInt?_eq_none {x : Binary64} {q : ℚ} (none : x.toInt? = none)
    (value : x.value? = some q) : q.isInt = false := by
  rw [← Bool.not_eq_true]
  intro isInt
  rw [Rat.eq_num_of_isInt isInt, ← toInt?_eq_some_iff, none] at value
  cases value

end Binary64

/-! ## Readings of values and messages -/

/-- The integer that a text is read as. -/
def textInteger? (s : String) : Option Int := (Decimal.read s).toOption

/-- Why `Decimal.read` does not read a text. Only a text that is too long has a complaint of its
own. -/
def textIntegerComplaint (s : String) : Complaint :=
  match Decimal.read s with
  | .error .tooLong => .integerTooLarge
  | _ => .integerUnreadable

namespace Value

/-- Why a value is not read as a text, if it is not. -/
def textComplaint (v : Value) : Complaint :=
  match v.content with
  | .bytes _ => .textUndecodable
  | _ => .textExpected

/-- The bytes that a value is, or those of the text that it is (`Text.Utf8.encode`). -/
def byteString? (v : Value) : Option (List UInt8) :=
  match v.content with
  | .bytes b => some b
  | v => v.asText?.map Text.Utf8.encode

/-- The integer that `checkInteger` reads: a truth value counts as one or zero, a number has to be
an integer of moderate size, and what is spelt out is read by `Decimal.read`. -/
def integer? (v : Value) : Option Int :=
  match v.content with
  | .bool b => some (if b then 1 else 0)
  | .int n => some n
  | .float x =>
      x.value?.bind fun q =>
        if q.isInt ∧ -integralLimit < q.num ∧ q.num < integralLimit then some q.num
        else Option.none
  | v => v.spelling?.bind textInteger?

/-- Why a value is not read as an integer, if it is not. -/
def integerComplaint (v : Value) : Complaint :=
  match v.content with
  | .float x =>
      match x.value? with
      | some q => if q.isInt then .integerTooLarge else .integerFractional
      | Option.none => .finiteExpected
  | .bytes _ | .text _ | .member _ =>
      (v.spelling?.map textIntegerComplaint).getD .integerUnreadable
  | _ => .integerExpected

/-- A reading of a value that may also be nothing, as `checkOptional` has it. -/
def orNothing {α : Type} (read? : Value → Option α) (v : Value) : Option (Option α) :=
  if v.isNone then some Option.none else (read? v).map some

end Value

/-- The order that a message is. -/
def Message.order? : Message Value → Option PropertyOrder
  | .propertyOrder m => some m
  | _ => none

/-- The property reference that a message is. -/
def Message.reference? : Message Value → Option PropertyReference
  | .propertyReference m => some m
  | _ => none

/-! ## The checks -/

/-- A reading, or a complaint that there is none. The checks of single fields are all of this form,
which is what makes them easy to combine below. -/
def Checked.orComplain {α : Type} (c : Complaint) : Option α → Checked α
  | some a => .ok a
  | none => complain c

@[simp] theorem Checked.orComplain_eq_ok_iff {α : Type} {c : Complaint} {read? : Option α} {a : α} :
    orComplain c read? = .ok a ↔ read? = some a := by
  cases read? <;> simp [orComplain, complain]

theorem checkText_eq (v : Value) : checkText v = .orComplain v.textComplaint v.spelling? := by
  induction v using Value.content.induct with
  | case1 _ look ih => exact ih
  | case2 v notObject =>
      cases v with
      | object _ look => exact absurd rfl (notObject _ look)
      | bytes b =>
          simp only [checkText, Value.content, Value.spelling?]
          cases Text.Utf8.decode? b <;> rfl
      | _ => rfl

theorem checkBytes_eq (v : Value) : checkBytes v = .orComplain .bytesExpected v.byteString? := by
  induction v using Value.content.induct with
  | case1 _ look ih => exact ih
  | case2 v notObject =>
      cases v with
      | object _ look => exact absurd rfl (notObject _ look)
      | _ => rfl

theorem checkIntegerText_eq (s : String) :
    checkIntegerText s = .orComplain (textIntegerComplaint s) (textInteger? s) := by
  unfold checkIntegerText textIntegerComplaint textInteger?
  rcases Decimal.read s with (_ | _) | _ <;> rfl

/-- Numbers by their values: the three ways in which `checkIntegerFloat` can refuse one are told
apart by `value?` alone. -/
theorem checkIntegerFloat_eq (x : Binary64) :
    checkIntegerFloat x =
      .orComplain (Value.float x).integerComplaint (Value.float x).integer? := by
  have isFinite : x.isFinite = x.value?.isSome := by cases x <;> rfl
  unfold checkIntegerFloat
  rw [isFinite]
  cases value : x.value? with
  | none => simp [Value.integerComplaint, Value.integer?, Value.content, value, Checked.orComplain]
  | some q =>
      cases whole : x.toInt? with
      | none =>
          have fraction := Binary64.isInt_of_toInt?_eq_none whole value
          simp [Value.integerComplaint, Value.integer?, Value.content, value, fraction,
            Checked.orComplain]
      | some i =>
          rw [Binary64.toInt?_eq_some_iff, value, Option.some.injEq] at whole
          subst whole
          have isInt : ((i : ℚ)).isInt = true := by simp [Rat.isInt]
          by_cases moderate : -integralLimit < i ∧ i < integralLimit <;>
            simp [Value.integerComplaint, Value.integer?, Value.content, value, isInt, moderate,
              Checked.orComplain]

theorem checkInteger_eq (v : Value) :
    checkInteger v = .orComplain v.integerComplaint v.integer? := by
  induction v using Value.content.induct with
  | case1 _ look ih => exact ih
  | case2 v notObject =>
      cases v with
      | object _ look => exact absurd rfl (notObject _ look)
      | float x => exact checkIntegerFloat_eq x
      | bytes b =>
          simp only [checkInteger, Value.integerComplaint, Value.integer?, Value.content,
            Value.spelling?]
          cases Text.Utf8.decode? b with
          | none => rfl
          | some s => exact checkIntegerText_eq s
      | text s => exact checkIntegerText_eq s
      | member m => exact checkIntegerText_eq m.spelling
      | _ => rfl

theorem PropertyOrder.check_message (m : Message Value) :
    PropertyOrder.check (.message m) = .orComplain (.messageExpected .propertyOrder) m.order? := by
  cases m <;> rfl

theorem PropertyReference.check_message (m : Message Value) :
    PropertyReference.check (.message m) =
      .orComplain (.messageExpected .propertyReference) m.reference? := by
  cases m <;> rfl

/-- If `check` is a reading or a complaint, then so is `checkOptional check`, with the same
complaint. -/
theorem checkOptional_eq {α : Type} {check : Value → Checked α} {read? : Value → Option α}
    {c : Complaint} {v : Value} (h : check v = .orComplain c (read? v)) :
    checkOptional check v = .orComplain c (v.orNothing read?) := by
  unfold checkOptional Value.orNothing
  rw [h]
  cases v.isNone with
  | true => rfl
  | false => cases read? v <;> rfl

/-! ## What several checks find -/

namespace Checked

variable {α β : Type}

/-- The problems that a check has found. A result has none, and neither has a failure of another
kind. -/
def found : Checked α → List Problem
  | .error (.problems problems) => problems
  | _ => []

/-- A check that comes to an end, with a result or with problems. Without this, what comes after it
is not looked at, and `found` says too little. -/
inductive Ends : Checked α → Prop where
  | ok (a : α) : Ends (.ok a)
  | problems (p : Problem) (rest : List Problem) : Ends (.error (.problems (p :: rest)))

theorem found_orComplain (step : Place.Step) (c : Complaint) (read? : Option α) :
    ((orComplain c read?).under step).found = if read?.isSome then [] else [⟨[step], c⟩] := by
  cases read? <;> rfl

theorem ends_orComplain (step : Place.Step) (c : Complaint) (read? : Option α) :
    ((orComplain c read?).under step).Ends := by
  cases read? with
  | none => exact .problems _ []
  | some a => exact .ok a

theorem found_under (step : Place.Step) (c : Checked α) :
    (c.under step).found = c.found.map (Problem.under step) := by
  rcases c with (_ | _) | _ <;> rfl

theorem Ends.under {c : Checked α} (h : c.Ends) (step : Place.Step) : (c.under step).Ends := by
  cases h with
  | ok a => exact .ok a
  | problems p rest => exact .problems _ _

theorem Ends.and {f : Checked (α → β)} {a : Checked α} (hf : f.Ends) (ha : a.Ends) :
    (f.and a).Ends := by
  cases hf <;> cases ha
  · exact .ok _
  · exact .problems _ _
  · exact .problems _ _
  · exact .problems _ _

/-- `Checked.and` puts nothing away: both sides are looked at, and all that is wrong with either is
found. -/
theorem found_and {f : Checked (α → β)} {a : Checked α} (hf : f.Ends) (ha : a.Ends) :
    (f.and a).found = f.found ++ a.found := by
  cases hf <;> cases ha <;> simp [Checked.and, found]

theorem orInvalid_eq_ok_iff {cls : MessageClass} {c : Checked α} {a : α} :
    c.orInvalid cls = .ok a ↔ c = .ok a := by
  rcases c with (_ | _) | _ <;> simp [orInvalid]

/-- `Checked.orInvalid` reports what is found, if anything is. -/
theorem Ends.orInvalid_eq_error_iff {c : Checked α} (h : c.Ends) {cls : MessageClass}
    {e : Failure} : c.orInvalid cls = .error e ↔ c.found ≠ [] ∧ e = .invalid cls c.found := by
  cases h <;> simp [orInvalid, found, eq_comm]

/-- `Checked.items` over readings: it ends, and what it finds is one complaint for each item that
cannot be read, at the index of the item. -/
theorem items_orComplain {check : Value → Checked β} {write : α → Value} {read? : α → Option β}
    {c : Complaint} (each : ∀ a, check (write a) = .orComplain c (read? a)) (l : List α) (i : Nat) :
    (items check i (l.map write)).Ends ∧ (items check i (l.map write)).found =
      (l.zipIdx i).flatMap fun e => if (read? e.1).isSome then [] else [⟨[.index e.2], c⟩] := by
  induction l generalizing i with
  | nil => exact ⟨.ok [], rfl⟩
  | cons a rest ih =>
      obtain ⟨ends, found⟩ := ih (i + 1)
      have first : ((of List.cons).and ((check (write a)).under (.index i))).Ends := by
        rw [each]
        exact (Ends.ok List.cons).and (ends_orComplain (.index i) c (read? a))
      refine ⟨first.and ends, ?_⟩
      rw [List.map_cons, items, found_and first ends, found, List.zipIdx_cons, List.flatMap_cons,
        each, found_and (.ok List.cons) (ends_orComplain _ c _), found_orComplain]
      rfl

/-- `Checked.items` over readings succeeds if every item can be read, with the readings in order. -/
theorem items_eq_ok_iff {check : Value → Checked β} {write : α → Value} {read? : α → Option β}
    {c : Complaint} (each : ∀ a, check (write a) = .orComplain c (read? a)) {l : List α} {i : Nat}
    {results : List β} :
    items check i (l.map write) = .ok results ↔ l.map read? = results.map some := by
  induction l generalizing i results with
  | nil => cases results <;> simp [items]
  | cons a rest ih =>
      rw [List.map_cons, items, and_eq_ok]
      cases results with
      | nil => simp [and_eq_ok]
      | cons b results => simp [and_eq_ok, each, ih, orComplain_eq_ok_iff]

end Checked

end EntityQuery
