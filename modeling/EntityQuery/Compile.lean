import EntityQuery.Compose
import EntityQuery.Condition
import EntityQuery.Order
import EntityQuery.Trace

/-!
# Compilation

From filter units to filters, and from what a builder has recorded to a compiled query.

* A comparison compiles its property, encodes its operand for the namespace, and checks
  operator and encoded operand together. A combination compiles all of its parts, from left
  to right, before it is checked itself. The caller's own units answer whatever they answer.
* A query compiles its filter units in order and insists that each can be compiled and
  answers a filter; the first one that does not ends the compilation, and no later unit is
  touched. Inside a combination nothing insists: a part without a compilation fails as such,
  and a part that answers something else makes the combination invalid.
* A query is logged as soon as its namespace has a description, and does not compile if that
  has none: `compileState` follows a log handler that raises. It compiles its kinds first, then
  its projections, then its filters; orders, groups and paging are only checked at the end, all
  together.
* Compiling changes nothing; what it leaves behind are the events of `Traced`.
-/

namespace EntityQuery

/-- The compiled form of a comparison for a namespace: the property first, then the operand by
`Value.encode`, then operator and operand together. -/
def compileComparison (property op operand scope : Value) : Except Failure (Filter Value) := do
  let reference ← PropertyReference.make property
  let value ← operand.encode scope
  return .property (← PropertyFilter.make reference op value)

/-- The compiled form of a combination whose parts have the given compiled forms.
`CompositeFilter.make` takes them for filters or refuses them; nothing else looks at what a part
answers. -/
def compileCombination (op : Value) (parts : List Value) : Except Failure (Filter Value) := do
  let composite ← CompositeFilter.make op parts
  return .composite composite.op composite.filters composite.mark

/-- What a recording unit shows of a namespace: nothing and everything else that counts as
false becomes the empty text. -/
def shownScope (scope : Value) : Value :=
  if scope.truthy then scope else .text ""

/-- The compiled form of a recording unit for a namespace. -/
def compileRecorder (name scope : Value) : Except Failure (Filter Value) := do
  let reference ← PropertyReference.make name
  return .property (← PropertyFilter.make reference (.member (.property .equal))
    (.ofTexts [("stringValue", shownScope scope)]))

/-- The namespace that a builder's configuration provides where none is given. -/
def defaultScope (config : Value) : Except Failure Value :=
  match config.content with
  | .config defaultNamespace _ => .ok defaultNamespace
  | config => .error (.noAttribute config.typeName "default_namespace")

/-- The namespace that a query is compiled for when it is asked for a given one: the default of its
configuration counts where none is given, and an empty namespace is one. -/
def effectiveScope (config scope : Value) : Except Failure Value :=
  if scope.isNone then defaultScope config else .ok scope

/-- The kinds and projections that a builder has recorded, as messages. They come before the filter
units, so a bad name keeps every unit from being compiled. -/
def compileNames (kinds projections : List Value) :
    Except Failure (List KindExpression × List Projection) := do
  let kinds ← kinds.mapM KindExpression.make
  let projections ← projections.mapM Projection.make
  return (kinds, projections)

mutual

/-- What a value answers when it is compiled for a namespace, with the events on the way. A builder
answers too, so units may be builders; orders and groups take no namespace, and what has no
compilation at all fails with `noAttribute`. -/
def Value.compile : Value → Value → Traced Value
  | .comparison _ _ property op operand, scope =>
      .lift ((Value.message ∘ .filter) <$> compileComparison property op operand scope)
  | .combination _ op parts, scope => do
      let parts ← compileParts parts scope
      .lift ((Value.message ∘ .filter) <$> compileCombination op parts)
  -- Called with a namespace that they do not take.
  | .order .., _ => .fail (.tooManyArguments "Order.compile" 1 1 2)
  | .group _, _ => .fail (.tooManyArguments "Group.compile" 1 1 2)
  | .query _ state, scope => (Value.message ∘ .query) <$> compileState state scope
  | .recorder mark name, scope => do
      .emit (.visited mark scope)
      .lift ((Value.message ∘ .filter) <$> compileRecorder name scope)
  | .answering _ result, _ => pure result
  | .object _ look, scope => (look ()).compile scope
  | .unseen, _ => .fail .endless
  | v, _ => .fail (.noAttribute v.typeName "compile")
termination_by structural v => v

/-- What the parts of a combination answer, from left to right. -/
def compileParts : List Value → Value → Traced (List Value)
  | [], _ => pure []
  | v :: rest, scope => do
      let part ← v.compile scope
      let parts ← compileParts rest scope
      return part :: parts
termination_by structural parts => parts

/-- The filters of a query's units, from the position `index` on. In contrast to `compileParts`,
each answer has to be a filter, and a unit that gives none is blamed for it with its position and
description. -/
def compileUnits : List Value → Nat → Value → Traced (List (Filter Value))
  | [], _, _ => pure []
  | unit :: rest, index, scope =>
      if unit.isCompilable then do
        let answer ← unit.compile scope
        match answer.content with
        -- Later units are reached from here only, so the first one that is refused ends the visits.
        | .message (.filter f) => do
            let filters ← compileUnits rest (index + 1) scope
            return f :: filters
        | _ => do
            let shown ← unit.describe
            .fail (.notFilter shown index answer.typeName)
      else do
        let shown ← unit.describe
        .fail (.notCompilable shown index)
termination_by structural units => units

/-- The compiled form of what a builder has recorded.

The record is written as soon as it is logged, by a handler that raises where it cannot write it. So
a namespace whose `Value.describe` fails ends the compilation before anything is compiled. With a
handler that swallows such a failure, or with no handler at all, the compilation would go on. -/
def compileState : QueryState Value → Value → Traced (QueryMessage Value)
  | ⟨config, kinds, projections, filters, orders, groups, startCursor, limit, offset⟩, scope => do
      let scope ← effectiveScope config scope
      let shown ← scope.describe
      -- Before anything can fail that has been recorded: a compilation that is refused is logged
      -- too.
      .emit (.logged ⟨kinds.length, filters.length, orders.length, groups.length, shown⟩)
      let (kinds, projections) ← compileNames kinds projections
      let filters ← compileUnits filters 0 scope
      .lift (QueryMessage.make kinds projections (Filter.compose filters) orders groups
        startCursor limit offset)
termination_by structural state => state

end

/-- Compiles filter units for a namespace and composes the results. -/
def compileFilters (units : List Value) (scope : Value) : Traced (Option (Filter Value)) :=
  Filter.compose <$> compileUnits units 0 scope

/-- The compiled form of a value that is compiled without a namespace, as orders and groups are.
Recording an order calls this, so that a builder holds messages for them and no loose values. -/
def Value.compileAlone (v : Value) : Traced (Message Value) :=
  match v.content with
  | .order property direction => .lift (.propertyOrder <$> Order.compile property direction)
  | .group property => .lift (.propertyReference <$> Group.compile property)
  | .query _ state => .query <$> compileState state .none
  | .comparison .. => .fail (.missingArguments "PropertyCondition.compile" ["namespace"])
  | .combination .. => .fail (.missingArguments "CompositeCondition.compile" ["namespace"])
  | .recorder .. => .fail (.missingArguments "Stub.compile" ["namespace"])
  | .answering .. => .fail (.missingArguments "Returns.compile" ["namespace"])
  | .unseen => .fail .endless
  | v => .fail (.noAttribute v.typeName "compile")

end EntityQuery
