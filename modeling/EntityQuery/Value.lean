import EntityQuery.Message
import EntityQuery.Binary64.Basic

/-!
# Values

Builders take arguments of any type and record most of them unchecked, so there is one type
for everything that an argument, an operand or a result can be.

* *Plain values*: nothing, truth values, numbers, texts, bytes, lists, tuples and mappings,
  the last with their entries in insertion order and no key twice.
* *Members* of the vocabularies, which are also texts: a member is as good as its spelling
  wherever a text is wanted.
* *The objects of the library*: keys, conditions, orders, groups, configurations, messages
  and builders. A comparison, a combination and a builder are told apart by a mark, not by
  their parts.
* *Objects of the caller's own*, which the library knows only by what they do: filter units
  that compile (`recorder`, `answering`) and operands that encode themselves for a namespace
  (`scoped`, `giving`).

What can be met again, as it has a place in a workspace, appears as an `object`: the number of
the place, and a look at it. Lists and mappings can come to hold themselves, so nothing is seen
of them before the look is taken, and it shows other objects only as further looks. Everything
else has a place only because there can be two alike that are not one. Every function of this
library that does not ask for places looks through `object` at the content.

A text is a sequence of characters, so one with half of a surrogate pair is no value here, neither
as a text nor as a key of a mapping. Nor is there a limit on how deep calls go inside of each other,
which would depend on where a caller stands: the only limits are those of data, `Nesting.limit` and
`Decimal.digitLimit`.
-/

namespace EntityQuery

/-- What a builder has recorded. The fields hold what the caller gave; only `orders` and `groups`
are compiled before they are recorded. -/
structure QueryState (α : Type) where
  config : α
  kinds : List α
  projections : List α
  filters : List α
  orders : List (Message α)
  groups : List (Message α)
  startCursor : α
  limit : α
  offset : α

/-- A value of any type. -/
inductive Value where
  | none
  | bool (b : Bool)
  | int (n : Int)
  | float (x : Binary64)
  | text (s : String)
  | bytes (b : List UInt8)
  | list (items : List Value)
  | tuple (items : List Value)
  /-- A mapping, as its entries in insertion order. -/
  | mapping (entries : List (Value × Value))
  /-- A value that has a place in a workspace, and a look at what is there. -/
  | object (number : Nat) (look : Unit → Value)
  /-- A builder that is too deep to be seen, as builders that hold each other have no end. -/
  | unseen
  /-- A member of one of the vocabularies. -/
  | member (m : Member)
  /-- A key: its path, and the namespace it is pinned to unless that is nothing. -/
  | key (path keyNamespace : Value)
  /-- A comparison of a property with an operand. -/
  | comparison (mark : Nat) (isAncestor : Bool) (property op operand : Value)
  /-- A combination of filter units. -/
  | combination (mark : Nat) (op : Value) (parts : List Value)
  /-- A sort key. -/
  | order (property direction : Value)
  /-- A distinct-on property. -/
  | group (property : Value)
  /-- A configuration of builders. -/
  | config (defaultNamespace strict : Value)
  /-- A message. -/
  | message (m : Message Value)
  /-- A builder: its number, and what it had recorded at the last look. -/
  | query (id : Nat) (state : QueryState Value)
  /-- A unit that records the namespaces it is compiled for and compiles to a filter that
  shows the namespace. -/
  | recorder (mark : Nat) (name : Value)
  /-- A unit that compiles to a fixed result, whatever that is. -/
  | answering (mark : Nat) (result : Value)
  /-- An operand whose encoding is a text followed by the namespace. -/
  | scoped (mark : Nat) (lead : Value)
  /-- An operand whose encoding is a fixed value. -/
  | giving (mark : Nat) (value : Value)

namespace Value

/-- What is seen of a value: the content of an `object`, else the value itself. Most functions on
values match on this, so that a place makes no difference to them. -/
def content : Value → Value
  | .object _ look => (look ()).content
  | v => v

@[simp] theorem content_object (number : Nat) (look : Unit → Value) :
    (Value.object number look).content = (look ()).content := rfl

/-- Looking twice shows nothing new. -/
@[simp] theorem content_content (v : Value) : v.content.content = v.content := by
  cases v with
  | object _ look => exact content_content (look ())
  | _ => rfl

/-- The number of the place of a value that has one. It is what the value is recognised by, where
that matters. -/
def place? : Value → Option Nat
  | .object number _ => some number
  | _ => Option.none

/-- Is a value at one of some places? -/
def isAmong (numbers : List Nat) (v : Value) : Bool := v.place?.any numbers.contains

/-- The name of the type of a value. -/
def typeName : Value → String
  | .none => "NoneType"
  | .bool _ => "bool"
  | .int _ => "int"
  | .float _ => "float"
  | .text _ => "str"
  | .bytes _ => "bytes"
  | .list _ => "list"
  | .tuple _ => "tuple"
  | .mapping _ => "dict"
  | .object _ look => (look ()).typeName
  | .unseen => "Query"
  | .member m => m.enumeration.name
  | .key .. => "Key"
  | .comparison _ isAncestor .. => if isAncestor then "AncestorCondition" else "PropertyCondition"
  | .combination .. => "CompositeCondition"
  | .order .. => "Order"
  | .group _ => "Group"
  | .config .. => "QueryConfig"
  | .message m => m.cls.name
  | .query .. => "Query"
  | .recorder .. => "Stub"
  | .answering .. => "Returns"
  | .scoped .. => "Scoped"
  | .giving .. => "Gives"

/-- Does the value count as true where a condition is wanted? Nothing, zeros and everything
empty count as false. -/
def truthy : Value → Bool
  | .none => false
  | .bool b => b
  | .int n => n != 0
  | .float x => !x.isZero
  | .text s => !s.isEmpty
  | .bytes b => !b.isEmpty
  | .list items => !items.isEmpty
  | .tuple items => !items.isEmpty
  | .mapping entries => !entries.isEmpty
  | .object _ look => (look ()).truthy
  | _ => true

/-- The text of a value that is one: a text, or the spelling of a member, since members of
vocabularies are texts. -/
def asText? : Value → Option String
  | .text s => some s
  | .member m => some m.spelling
  | .object _ look => (look ()).asText?
  | _ => Option.none

/-- Is the value a condition, one of the two that can be joined by operators? -/
def isCondition : Value → Bool
  | .comparison .. => true
  | .combination .. => true
  | .object _ look => (look ()).isCondition
  | _ => false

/-- Can the value be compiled for a namespace? Orders and groups have a compilation too, though one
that takes no namespace, and so pass for filter units until they are called. -/
def isCompilable : Value → Bool
  | .comparison .. | .combination .. | .order .. | .group _ | .query .. => true
  | .recorder .. | .answering .. | .unseen => true
  | .object _ look => (look ()).isCompilable
  | _ => false

/-- Does the value encode itself for a namespace? -/
def isScoped : Value → Bool
  | .key .. | .scoped .. | .giving .. => true
  | .object _ look => (look ()).isScoped
  | _ => false

/-- Is the value nothing? -/
def isNone : Value → Bool
  | .none => true
  | .object _ look => (look ()).isNone
  | _ => false

/-- A text or nothing, as values of a namespace are meant to be. -/
def ofText? : Option String → Value
  | some s => .text s
  | Option.none => .none

/-- An integer or nothing. -/
def ofInt? : Option Int → Value
  | some n => .int n
  | Option.none => .none

/-- A mapping from texts as a value. -/
def ofTexts (entries : List (String × Value)) : Value :=
  .mapping (entries.map fun (k, v) => (.text k, v))

/-- What is seen of a value counts as true exactly if the value does. -/
@[simp] theorem truthy_content (v : Value) : v.content.truthy = v.truthy := by
  cases v with
  | object _ look => simpa [truthy] using truthy_content (look ())
  | _ => rfl

/-- What is seen of a value has the value's type. -/
@[simp] theorem typeName_content (v : Value) : v.content.typeName = v.typeName := by
  cases v with
  | object _ look => simpa [typeName] using typeName_content (look ())
  | _ => rfl

end Value

end EntityQuery
