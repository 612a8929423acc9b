import EntityQuery.Operator

/-!
# Wire messages

The immutable messages that a query is compiled to and that a transport sends. There are ten
classes with fields, of which that of filters is the recursive one, and the class of bare
messages, which have none.

* Each class is a structure with the types that its fields really have. In particular a
  `Filter` is *either* a property filter *or* a composite filter, so one with both or with
  neither cannot be written down; it is the validation of loose data that has to refuse those.
* The containers in a message, the mapping of a property filter and the parts of a composite
  one, can be shared with other messages. A message that can be met again has a mark for each
  of them; what a message says does not depend on its marks.
* The mapping inside a property filter holds values that the messages never look into, so
  every class that contains one is parametric in their type `α`.
* `Message` is a message of any class and `MessageClass` the class itself.
-/

namespace EntityQuery

/-- The kind of the entities that a query draws from. -/
structure KindExpression where
  name : String
  deriving DecidableEq, Repr

/-- A reference to a property by its name. -/
structure PropertyReference where
  name : String
  deriving DecidableEq, Repr

/-- A property that is returned. -/
structure Projection where
  property : PropertyReference
  deriving DecidableEq, Repr

/-- A property that results are sorted on. -/
structure PropertyOrder where
  property : PropertyReference
  direction : Direction
  deriving DecidableEq, Repr

/-- A comparison of a property with an encoded value, which is a mapping from texts. -/
structure PropertyFilter (α : Type) where
  property : PropertyReference
  op : PropertyOperator
  value : List (String × α)
  /-- The mark of the mapping, if it can be met again. -/
  mark : Option Nat

/-- A filter: a comparison, or a combination of filters. -/
inductive Filter (α : Type) where
  /-- A property filter. -/
  | property (filter : PropertyFilter α)
  /-- A composite filter, with the mark of its parts if they can be met again. -/
  | composite (op : CompositeOperator) (filters : List (Filter α)) (mark : Option Nat)

/-- A combination of filters as a message of its own. -/
structure CompositeFilter (α : Type) where
  op : CompositeOperator
  filters : List (Filter α)
  /-- The mark of the parts, if they can be met again. -/
  mark : Option Nat

/-- A compiled query. -/
structure QueryMessage (α : Type) where
  /-- The kinds to draw entities from. -/
  kinds : List KindExpression
  /-- The properties to return; none means whole entities. -/
  projections : List Projection
  /-- The condition on entities, if there is any. -/
  filter : Option (Filter α)
  /-- The sort keys, the first one taking precedence. -/
  orders : List PropertyOrder
  /-- The properties that results are made distinct on. -/
  distinctOn : List PropertyReference
  /-- Where a previous run ended. -/
  startCursor : Option (List UInt8)
  /-- The greatest number of results. -/
  limit : Option Int
  /-- The number of results to skip. -/
  offset : Int

/-- The partition of the store that a request is about. -/
structure PartitionId where
  projectId : Option String
  namespaceId : Option String
  deriving DecidableEq, Repr

/-- A compiled query together with its partition. -/
structure RequestMessage (α : Type) where
  partitionId : PartitionId
  query : QueryMessage α

/-- A message of any class. -/
inductive Message (α : Type) where
  /-- A message without fields. -/
  | bare
  | kindExpression (message : KindExpression)
  | propertyReference (message : PropertyReference)
  | projection (message : Projection)
  | propertyOrder (message : PropertyOrder)
  | propertyFilter (message : PropertyFilter α)
  | compositeFilter (message : CompositeFilter α)
  | filter (message : Filter α)
  | query (message : QueryMessage α)
  | partitionId (message : PartitionId)
  | request (message : RequestMessage α)

/-- The classes of messages. -/
inductive MessageClass where
  /-- The class without fields, which all messages belong to besides their own. -/
  | bare
  | kindExpression
  | propertyReference
  | projection
  | propertyOrder
  | propertyFilter
  | compositeFilter
  | filter
  | query
  | partitionId
  | request
  deriving DecidableEq, Repr

/-- The name of a class. -/
def MessageClass.name : MessageClass → String
  | bare => "WireMessage"
  | kindExpression => "KindExpression"
  | propertyReference => "PropertyReference"
  | projection => "Projection"
  | propertyOrder => "PropertyOrder"
  | propertyFilter => "PropertyFilter"
  | compositeFilter => "CompositeFilter"
  | filter => "Filter"
  | query => "WireQuery"
  | partitionId => "PartitionId"
  | request => "RunQueryRequest"

/-- All classes, in declaration order. -/
def MessageClass.all : List MessageClass :=
  [bare, kindExpression, propertyReference, projection, propertyOrder, propertyFilter,
    compositeFilter, filter, query, partitionId, request]

/-- The class with a name. -/
def MessageClass.ofName? (s : String) : Option MessageClass := all.find? (·.name == s)

/-- A class is found by its own name. -/
@[simp] theorem MessageClass.ofName?_name (c : MessageClass) : ofName? c.name = some c := by
  cases c <;> decide

/-- The class of a message. -/
def Message.cls {α : Type} : Message α → MessageClass
  | .bare => .bare
  | .kindExpression _ => .kindExpression
  | .propertyReference _ => .propertyReference
  | .projection _ => .projection
  | .propertyOrder _ => .propertyOrder
  | .propertyFilter _ => .propertyFilter
  | .compositeFilter _ => .compositeFilter
  | .filter _ => .filter
  | .query _ => .query
  | .partitionId _ => .partitionId
  | .request _ => .request

end EntityQuery
