import EntityQuery.Condition
import EntityQuery.Signature

/-!
# Factories

The ways to make conditions, orders and groups from loose arguments: short names for everyday
use, each with its operator built in, and the classes themselves, which take the operator as an
argument.

* `Factory.operator?` is the operator that a short name for comparisons stands for.
* `Factory.make` makes the value, or says what is wrong with the arguments; nothing but their
  number and the operator of a class is looked at.
-/

namespace EntityQuery

/-- A way to make a condition, an order or a group. -/
inductive Factory where
  | eq
  | ne
  | lt
  | lte
  | gt
  | gte
  /-- Is one of the items of an encoded list. -/
  | oneOf
  | notOneOf
  /-- Is a descendant of a key. -/
  | ancestor
  /-- Satisfies all conditions. -/
  | both
  /-- Satisfies one of the conditions. -/
  | either
  | asc
  | desc
  | group
  /-- The class of comparisons. -/
  | comparisonClass
  /-- The class of ancestor conditions. -/
  | ancestorClass
  /-- The class of combinations. -/
  | combinationClass
  /-- The class of orders. -/
  | orderClass
  /-- The class of groups. -/
  | groupClass
  deriving DecidableEq, Repr

namespace Factory

/-- The operator of a short name for comparisons. -/
def operator? : Factory → Option PropertyOperator
  | eq => some .equal
  | ne => some .notEqual
  | lt => some .lessThan
  | lte => some .lessThanOrEqual
  | gt => some .greaterThan
  | gte => some .greaterThanOrEqual
  | oneOf => some .oneOf
  | notOneOf => some .notOneOf
  | _ => none

/-- The name by which a factory is called. -/
def name : Factory → String
  | eq => "eq"
  | ne => "ne"
  | lt => "lt"
  | lte => "lte"
  | gt => "gt"
  | gte => "gte"
  | oneOf => "in_"
  | notOneOf => "not_in"
  | ancestor => "ancestor"
  | both => "and_"
  | either => "or_"
  | asc => "asc"
  | desc => "desc"
  | group => "group"
  | comparisonClass => "PropertyCondition"
  | ancestorClass => "AncestorCondition"
  | combinationClass => "CompositeCondition"
  | orderClass => "Order"
  | groupClass => "Group"

/-- The short names. -/
def shortNames : List Factory :=
  [eq, ne, lt, lte, gt, gte, oneOf, notOneOf, ancestor, both, either, asc, desc, group]

/-- The parameters of a factory, apart from the conditions that are joined. -/
def signature (f : Factory) : Signature :=
  match f with
  | ancestor => ⟨f.name, false, ["key"], []⟩
  | both | either => ⟨f.name, false, [], []⟩
  | asc | desc | group => ⟨f.name, false, ["name"], []⟩
  | comparisonClass => ⟨f.name ++ ".__init__", true, ["property", "op", "value"], []⟩
  | ancestorClass => ⟨f.name ++ ".__init__", true, ["key"], []⟩
  | combinationClass => ⟨f.name ++ ".__init__", true, ["op"], []⟩
  | orderClass => ⟨f.name ++ ".__init__", true, ["property"], ["direction"]⟩
  | groupClass => ⟨f.name ++ ".__init__", true, ["property"], []⟩
  | _ => ⟨f.name, false, ["name", "value"], []⟩

/-- A comparison with a built-in operator, from a property and an operand. -/
def compare (mark : Nat) (f : Factory) : List Value → Except Failure Value
  | [property, operand] =>
      match f.operator? with
      | some op => .ok (.comparison mark false property (.member (.property op)) operand)
      | none => .error (f.signature.misfit 2)
  | arguments => .error (f.signature.misfit arguments.length)

/-- The value that a factory makes of its arguments. A condition gets the given mark. -/
def make (mark : Nat) : Factory → List Value → Except Failure Value
  | ancestor, [key] | ancestorClass, [key] => .ok (Condition.ancestor mark key)
  | both, parts => Condition.combination mark (.member (.composite .and)) parts
  | either, parts => Condition.combination mark (.member (.composite .or)) parts
  | asc, [property] => .ok (.order property (.member (.direction .ascending)))
  | desc, [property] => .ok (.order property (.member (.direction .descending)))
  | group, [property] | groupClass, [property] => .ok (.group property)
  | comparisonClass, [property, op, operand] => Condition.comparison mark property op operand
  | combinationClass, op :: parts => Condition.combination mark op parts
  | orderClass, [property] => .ok (.order property (.member (.direction .ascending)))
  | orderClass, [property, direction] => .ok (.order property direction)
  | f, arguments =>
      if f.operator?.isSome then compare mark f arguments
      else .error (f.signature.misfit arguments.length)

end Factory

end EntityQuery
