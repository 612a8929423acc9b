import EntityQuery.Binary64.Sum
import EntityQuery.Bits
import EntityQuery.Value.Entries

/-!
# Operators on plain values

What the operators `&`, `|` and `+` do with values that are no conditions.

* `&` and `|` combine integers bit by bit, and of two truth values make one; `|` also puts the
  entries of the right mapping over those of the left one.
* `+` adds numbers and puts sequences of one type one behind the other.
* Everything else is refused, in the words of the left side if that is a sequence.
-/

namespace EntityQuery

/-- The two operators that join values. -/
inductive Joiner where
  | both
  | either
  deriving DecidableEq, Repr

namespace Joiner

/-- The symbol of a joining operator. -/
def symbol : Joiner → String
  | both => "&"
  | either => "|"

/-- What a joining operator makes of two truth values. -/
def onBools : Joiner → Bool → Bool → Bool
  | both => and
  | either => or

/-- What a joining operator makes of two integers. -/
def onInts : Joiner → Int → Int → Int
  | both => Bits.both
  | either => Bits.either

/-- The refusal of two values by a joining operator. -/
def refuse (joiner : Joiner) (left right : Value) : Failure :=
  .unsupported joiner.symbol left.typeName right.typeName

end Joiner

/-- The integer that a value is, truth values being one and zero. -/
def Value.asInt? (v : Value) : Option Int :=
  match v.content with
  | .int n => some n
  | .bool b => some (if b then 1 else 0)
  | _ => Option.none

/-- The entries of the second mapping put over those of the first one. -/
def Entries.merge (entries others : List (Value × Value)) : List (Value × Value) :=
  others.foldl (fun entries (k, v) => Entries.set k v entries) entries

/-- What a joining operator makes of two plain values. -/
def Joiner.onPlain (joiner : Joiner) (left right : Value) : Except Failure Value :=
  match joiner, left.content, right.content with
  | joiner, .bool a, .bool b => .ok (.bool (joiner.onBools a b))
  | .either, .mapping entries, .mapping others => .ok (.mapping (Entries.merge entries others))
  | joiner, _, _ =>
      match left.asInt?, right.asInt? with
      | some a, some b => .ok (.int (joiner.onInts a b))
      | _, _ => .error (joiner.refuse left right)

/-- The floating-point number that stands for a value in a sum with one. -/
def Value.asFloat (v : Value) : Option (Except Failure Binary64) :=
  match v.content with
  | .float x => some (.ok x)
  | _ => v.asInt?.map fun n =>
      match Binary64.ofInt? n with
      | some x => .ok x
      | Option.none => .error .tooLargeForFloat

/-- The sum of two numbers, or the failure to find two. -/
def Value.sum (mark : Nat) (left right : Value) : Except Failure Value :=
  match left.asInt?, right.asInt? with
  | some a, some b => .ok (.int (a + b))
  | _, _ =>
      match left.asFloat, right.asFloat with
      | some x, some y => do return .float (Binary64.add mark (← x) (← y))
      | _, _ => .error (.unsupported "+" left.typeName right.typeName)

/-- What the operator `+` makes of two values. A not-a-number that arises gets the given
mark. -/
def Value.plus (mark : Nat) (left right : Value) : Except Failure Value :=
  match left.asText? with
  | some s =>
      match right.asText? with
      | some t => .ok (.text (s ++ t))
      | Option.none => .error (.notConcatenable "str" right.typeName)
  | Option.none =>
      match left.content, right.content with
      | .bytes a, .bytes b => .ok (.bytes (a ++ b))
      | .list a, .list b => .ok (.list (a ++ b))
      | .tuple a, .tuple b => .ok (.tuple (a ++ b))
      | .bytes _, _ | .list _, _ | .tuple _, _ =>
          .error (.notConcatenable left.typeName right.typeName)
      | _, _ => left.sum mark right

end EntityQuery
