import EntityQuery.Value.Entries
import EntityQuery.Text.Utf8

/-!
# Checking loose data

The parts that the validation of every message class is made of: results that either are
there or come with everything that is wrong, the rules for texts, bytes, integers, members
and mappings, and the look-up of fields.

* `Checked` collects: where several parts are checked, the problems of all of them are
  reported, in order (`Checked.and`). Only a check that fails itself ends everything.
* A field may be given under its wire name or its plain name; the wire name wins, and the
  name under which the field was given is the one that a problem reports (`Spelling`).
* The rules are generous in one direction only: bytes are taken for texts and integers, texts
  for bytes and integers, integral numbers for integers; nothing becomes a text by being
  written out.
-/

namespace EntityQuery

/-- Why data was refused. -/
inductive Refusal where
  /-- Everything that is wrong with the data. -/
  | problems (found : List Problem)
  /-- The check itself failed. -/
  | failed (failure : Failure)

/-- Data of the wanted form, or why it was refused. It is applicative and not only monadic: `and`
keeps the problems of both sides. -/
abbrev Checked (α : Type) := Except Refusal α

namespace Checked

variable {α β : Type}

/-- Data without problems. -/
abbrev of (a : α) : Checked α := .ok a

/-- A single complaint about the data as a whole. -/
def complain (c : Complaint) : Checked α := .error (.problems [⟨[], c⟩])

/-- The result for a part, as seen from one step further out. -/
def under (step : Place.Step) : Checked α → Checked α
  | .ok a => .ok a
  | .error (.problems found) => .error (.problems (found.map (Problem.under step)))
  | .error (.failed e) => .error (.failed e)

/-- Applies a checked function to a checked argument. The problems of both are kept, those of the
function first; a refusal of another kind ends the check. -/
def and : Checked (α → β) → Checked α → Checked β
  | .ok f, .ok a => .ok (f a)
  | .ok _, .error q => .error q
  -- A failure ends the check at once, so the problems found by then are not reported.
  | .error (.failed e), _ => .error (.failed e)
  | .error p, .ok _ => .error p
  | .error (.problems _), .error (.failed e) => .error (.failed e)
  | .error (.problems p), .error (.problems q) => .error (.problems (p ++ q))

/-- Checks items one by one, from the given position on, keeping the problems of all. -/
def items (check : Value → Checked α) (index : Nat) : List Value → Checked (List α)
  | [] => .ok []
  | v :: rest =>
      ((of List.cons).and ((check v).under (.index index))).and
        (items check (index + 1) rest)

/-- What comes of data, or the failure for the class that was asked for. -/
def orInvalid (cls : MessageClass) : Checked α → Except Failure α
  | .ok a => .ok a
  | .error (.problems found) => .error (.invalid cls found)
  | .error (.failed e) => .error e

@[simp] theorem under_ok (step : Place.Step) (a : α) :
    under step (.ok a : Checked α) = .ok a := rfl

@[simp] theorem and_ok (f : α → β) (a : α) : and (.ok f) (.ok a) = .ok (f a) := rfl

/-- Both parts have to be there for the whole to be. -/
theorem and_eq_ok {f : Checked (α → β)} {a : Checked α} {b : β} :
    f.and a = .ok b ↔ ∃ g x, f = .ok g ∧ a = .ok x ∧ g x = b := by
  rcases f with (_ | _) | _ <;> rcases a with (_ | _) | _ <;> simp [and]

/-- What is right within a part is right for the whole. -/
@[simp] theorem under_eq_ok {step : Place.Step} {c : Checked α} {a : α} :
    c.under step = .ok a ↔ c = .ok a := by
  rcases c with (_ | _) | _ <;> simp [under]

end Checked

/-! ## Texts, bytes, members and integers -/

/-- A text: a text, a member's spelling, or bytes that are one. -/
def checkText (v : Value) : Checked String :=
  match v.content with
  | .text s => .ok s
  | .member m => .ok m.spelling
  | .bytes b =>
      match Text.Utf8.decode? b with
      | some s => .ok s
      | none => .complain .textUndecodable
  | _ => .complain .textExpected

/-- Bytes: bytes, or the encoding of a text. -/
def checkBytes (v : Value) : Checked (List UInt8) :=
  match v.content with
  | .bytes b => .ok b
  | v =>
      match v.asText? with
      | some s => .ok (Text.Utf8.encode s)
      | none => .complain .bytesExpected

/-- The spelling that a value has: that of a text, a member, or bytes that are a text. -/
def Value.spelling? (v : Value) : Option String :=
  match v.content with
  | .bytes b => Text.Utf8.decode? b
  | v => v.asText?

/-- What the look-up of a member fails with for a value that names none: the value is asked for
its description then, and may have none. That it has too many digits for a description is not told
apart from naming no member, since both are errors of the class that the look-up expects. -/
def Value.lookUpFailure? (v : Value) : Option Failure :=
  match v.describe with
  | .ok _ => Option.none
  | .error e => if e.isTooManyDigits then Option.none else some e

/-- A look-up fails only with what the description of the value does. -/
theorem Value.describe_of_lookUpFailure? {v : Value} {e : Failure}
    (failed : v.lookUpFailure? = some e) : v.describe = .error e := by
  unfold lookUpFailure? at failed
  cases described : v.describe with
  | ok shown => simp [described] at failed
  | error e' =>
      simp only [described, Option.ite_none_left_eq_some, Option.some.injEq] at failed
      rw [failed.2]

/-- A member that is looked up by the spelling of a value. -/
def checkMember {α : Type} (enumeration : Enumeration) (ofSpelling? : String → Option α)
    (v : Value) : Checked α :=
  match v.spelling?.bind ofSpelling? with
  | some m => .ok m
  | none =>
      match v.lookUpFailure? with
      | none => .complain (.memberExpected enumeration)
      | some e => .error (.failed e)

/-- A property operator, itself or spelt out. -/
def checkPropertyOperator : Value → Checked PropertyOperator :=
  checkMember .propertyOperator PropertyOperator.ofSpelling?

/-- A composite operator, itself or spelt out. -/
def checkCompositeOperator : Value → Checked CompositeOperator :=
  checkMember .compositeOperator CompositeOperator.ofSpelling?

/-- A direction, itself or spelt out. -/
def checkDirection : Value → Checked Direction :=
  checkMember .direction Direction.ofSpelling?

/-- An integer given as a text. -/
def checkIntegerText (s : String) : Checked Int :=
  match Decimal.read s with
  | .ok n => .ok n
  | .error .malformed => .complain .integerUnreadable
  | .error .tooLong => .complain .integerTooLarge

/-- The magnitude from which on a floating-point number is not taken for an integer. -/
def integralLimit : Int := (Nat.pow 2 63 : Nat)

/-- An integer given as a floating-point number. -/
def checkIntegerFloat (x : Binary64) : Checked Int :=
  if !x.isFinite then .complain .finiteExpected
  else match x.toInt? with
    | none => .complain .integerFractional
    | some n =>
        if -integralLimit < n ∧ n < integralLimit then .ok n
        else .complain .integerTooLarge

/-- An integer: an integer, a truth value as one or zero, an integral floating-point number of less
than `integralLimit`, or a text or bytes that `Decimal.read` reads as one. -/
def checkInteger (v : Value) : Checked Int :=
  match v.content with
  | .int n => .ok n
  | .bool b => .ok (if b then 1 else 0)
  | .float x => checkIntegerFloat x
  | .bytes b =>
      match Text.Utf8.decode? b with
      | some s => checkIntegerText s
      | none => .complain .integerUnreadable
  | v =>
      match v.asText? with
      | some s => checkIntegerText s
      | none => .complain .integerExpected

/-- Something that may be left out by giving nothing. -/
def checkOptional {α : Type} (check : Value → Checked α) (v : Value) : Checked (Option α) :=
  if v.isNone then .ok none else (check v).map some

/-- The items of a value that can be taken for a sequence: those of a list or a tuple, and the
fields of a message. Texts, bytes and mappings have items too, but are refused. -/
def Value.sequence? (v : Value) : Option (List Value) :=
  match v.content with
  | .list items => some items
  | .tuple items => some items
  | .message m => some m.fieldItems
  | _ => Option.none

/-- A sequence of items. -/
def checkSequence {α : Type} (check : Value → Checked α) (v : Value) : Checked (List α) :=
  match v.sequence? with
  | some items => Checked.items check 0 items
  | none => .complain .sequenceExpected

/-! ## Mappings from texts -/

/-- The step into a mapping by a key of any type: an integer of 64 bits is a position, a text
itself, and everything else its description, or its type where it has none. -/
def Place.Step.ofKey (k : Value) : Place.Step :=
  let shown := k.describe.toOption.getD ("<unprintable " ++ k.typeName ++ " object>")
  match k.content with
  | .bool b => .index (if b then 1 else 0)
  | .int n => if -integralLimit ≤ n ∧ n < integralLimit then .index n else .key shown
  | _ => .key (k.asText?.getD shown)

/-- Sets the value of a text in a mapping from texts, in its place if it is there. -/
def setText (key : String) (value : Value) : List (String × Value) → List (String × Value)
  | [] => [(key, value)]
  | (k, v) :: rest => if k = key then (k, value) :: rest else (k, v) :: setText key value rest

/-- Checks that all keys are texts; values are taken as they are. Keys that spell the same text fall
together, by `setText`. -/
def checkEntries (entries : List (String × Value)) :
    List (Value × Value) → Checked (List (String × Value))
  | [] => .ok entries
  | (k, v) :: rest =>
      match checkText k with
      | .ok s => checkEntries (setText s v entries) rest
      | .error refusal =>
          (Checked.under (.ofKey k) (Checked.under (.key "[key]") (.error refusal))).and
            (checkEntries entries rest)

/-- A mapping from texts. -/
def checkMapping (v : Value) : Checked (List (String × Value)) :=
  match v.content with
  | .mapping entries => checkEntries [] entries
  | _ => .complain .mappingExpected

/-! ## Fields -/

/-- The two names of a message field. -/
structure Spelling where
  /-- The name in encoded messages. -/
  wire : String
  /-- The name in programs. -/
  plain : String
  deriving DecidableEq, Repr

/-- A field that has one name only. -/
def Spelling.same (name : String) : Spelling := ⟨name, name⟩

/-- The name that a field of a mapping was given under, and its value: the wire name if it is there,
else the plain one. What is under the plain name beside the wire name is never looked at. -/
def Spelling.given? (field : Spelling) (entries : List (Value × Value)) :
    Option (String × Value) :=
  -- `or` looks at the plain name only where the wire name is no key.
  ((Entries.get? field.wire entries).map (field.wire, ·)).or
    ((Entries.get? field.plain entries).map (field.plain, ·))

/-- The result for a field of a mapping that is checked by `check`, under the name that it was
given by. -/
def Spelling.find? {α : Type} (field : Spelling) (check : Value → Checked α)
    (entries : List (Value × Value)) : Option (Checked α) :=
  (field.given? entries).map fun (name, v) => (check v).under (.key name)

/-- A field that has to be there; a problem is told at the wire name where it is not. -/
def Spelling.required {α : Type} (field : Spelling) (check : Value → Checked α)
    (entries : List (Value × Value)) : Checked α :=
  (field.find? check entries).getD (.error (.problems [⟨[.key field.wire], .missing⟩]))

/-- A field that has a value if it is not given. -/
def Spelling.defaulted {α : Type} (field : Spelling) (absent : α) (check : Value → Checked α)
    (entries : List (Value × Value)) : Checked α :=
  (field.find? check entries).getD (.ok absent)

end EntityQuery
