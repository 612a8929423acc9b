import EntityQuery.Key
import EntityQuery.Value.Arithmetic

/-!
# Conditions

The filter units of the library: a comparison of a property with an operand, its special case
that asks for the descendants of a key, and the combination of several units.

* An operator given as a text, or as a member of any vocabulary, is looked up at once;
  anything else is kept and left to the compilation.
* A combination needs at least one part. The operators `&` and `|` make a combination of two
  values, the left one of which has to be a condition; of others they make what they make of
  plain values.
* An operand is a mapping, already encoded, or something that encodes itself for a namespace;
  `Value.encode` is the encoding of either, done anew for every compilation.
-/

namespace EntityQuery

/-- The member of a vocabulary that a value spells. -/
def Enumeration.lookUp (enumeration : Enumeration) (v : Value) : Except Failure Member :=
  match v.asText?.bind enumeration.find? with
  | some m => .ok m
  | none => do .error (.notMember (← v.describe) enumeration)

/-- An operator as a condition keeps it: looked up if it is a text, else as it is. So something else
than a text is refused by `PropertyFilter.make` only. -/
def Enumeration.settle (enumeration : Enumeration) (op : Value) : Except Failure Value :=
  if op.asText?.isSome then .member <$> enumeration.lookUp op else .ok op

/-- The operator that a joining operator stands for. -/
def Joiner.operator : Joiner → CompositeOperator
  | .both => .and
  | .either => .or

namespace Condition

/-- The property that stands for the key of an entity. -/
def keyProperty : String := "__key__"

/-- A comparison of a property with an operand. Only the operator is looked at here. -/
def comparison (mark : Nat) (property op operand : Value) : Except Failure Value := do
  let op ← Enumeration.propertyOperator.settle op
  return .comparison mark false property op operand

/-- The condition to be a descendant of a key, as a comparison of `keyProperty` with it. -/
def ancestor (mark : Nat) (key : Value) : Value :=
  .comparison mark true (.text keyProperty) (.member (.property .hasAncestor)) key

/-- A combination of filter units. -/
def combination (mark : Nat) (op : Value) (parts : List Value) : Except Failure Value :=
  if parts.isEmpty then .error .emptyCombination
  else do
    let op ← Enumeration.compositeOperator.settle op
    return .combination mark op parts

/-- Two values joined by an operator: a combination, if the left one is a condition. The right one
is taken as it is, and fails when it is compiled if at all. -/
def join (mark : Nat) (joiner : Joiner) (left right : Value) : Except Failure Value :=
  if left.isCondition then
    combination mark (.member (.composite joiner.operator)) [left, right]
  else joiner.onPlain left right

end Condition

/-- Something followed by the namespace, or by a dash if there is none. -/
def encodeScoped (mark : Nat) (lead given : Value) : Except Failure Value := do
  let text ← lead.plus mark (if given.isNone then .text "-" else given)
  return .ofTexts [("stringValue", text)]

/-- An operand encoded for a namespace: what encodes itself does so, and anything else is taken for
a mapping and copied, down to its entries and no further. -/
def Value.encode (operand given : Value) : Except Failure Value :=
  match operand.content with
  | .key path keyNamespace => Key.encode ⟨path, keyNamespace⟩ given
  | .scoped mark lead => encodeScoped mark lead given
  | .giving _ v => .ok v
  | operand => .mapping <$> operand.toEntries

/-- A member of the right vocabulary is kept. -/
theorem Enumeration.settle_member (m : Member) :
    m.enumeration.settle (.member m) = .ok (.member m) := by
  have found : m.enumeration.lookUp (.member m) = .ok m := by
    simp only [Enumeration.lookUp, Value.asText?, Option.bind_some, find?_spelling]
  simp only [settle, Value.asText?, Option.isSome_some, if_true, found]
  rfl

end EntityQuery
