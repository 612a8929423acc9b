import EntityQuery.Failure
import EntityQuery.Text.Quoted
import EntityQuery.Binary64.Shortest

/-!
# Descriptions

The text by which a value is described: in failures, in log records, and to whoever asks.

* Plain values are written so that their type can be seen: texts and bytes between quotation
  marks, containers between brackets, a tuple of one item with a trailing comma.
* A message is its class and its fields by name, absent ones included; keys, orders, groups
  and configurations look the same way.
* A condition is its class and its parts, the operator by its spelling. Its operator can be
  anything, and one that has no spelling leaves the condition, and all that contains it,
  without a description: `describe` can fail. So does an integer with too many digits to be
  written out (`writeInteger`).
* A builder shows its paging and its names, and only the number of everything else, so a
  builder among its own filters has a description.
* What is met inside itself is not described again: an ellipsis stands for it, between the
  brackets of a container. That holds for containers and for keys, orders, groups and
  configurations, and not for conditions and messages, though it does for the containers in
  them. A `Spot` tells such a thing from all others, and `Value.describeIn` keeps the spots
  that it is inside of.
* Where a value is not described but shown for what it is (`Value.display`), a text stands for
  itself; inside of other values there is no difference.
-/

namespace EntityQuery

namespace Describe

/-- Descriptions in a row. -/
def commas (items : List String) : String := String.intercalate ", " items

/-- Descriptions between square brackets. -/
def list (items : List String) : String := "[" ++ commas items ++ "]"

/-- Descriptions between parentheses; a single one is followed by a comma. -/
def tuple : List String → String
  | [item] => "(" ++ item ++ ",)"
  | items => "(" ++ commas items ++ ")"

/-- Descriptions of entries between braces. -/
def mapping (entries : List (String × String)) : String :=
  "\x7b" ++ commas (entries.map fun (k, v) => k ++ ": " ++ v) ++ "\x7d"

/-- Described fields in a row, with something between them. -/
def assignments (between : String) (fields : List (String × String)) : String :=
  String.intercalate between (fields.map fun (k, v) => k ++ "=" ++ v)

/-- A name with described fields. -/
def fields (name : String) (fields : List (String × String)) : String :=
  name ++ "(" ++ assignments ", " fields ++ ")"

/-- A name with a described part. -/
def call (name part : String) : String := name ++ "(" ++ part ++ ")"

/-- The description of something that may be absent. -/
def optional {α : Type} (describe : α → String) : Option α → String
  | some a => describe a
  | none => "None"

/-- The description of an integer that may be absent, which fails as `writeInteger` does. -/
def optionalInteger : Option Int → Except Failure String
  | some n => writeInteger n
  | none => .ok "None"

/-- The description of a truth value. -/
def bool (b : Bool) : String := if b then "True" else "False"

/-- The description of a kind. -/
def kindExpression (m : KindExpression) : String :=
  fields "KindExpression" [("name", Text.quote m.name)]

/-- The description of a property reference. -/
def propertyReference (m : PropertyReference) : String :=
  fields "PropertyReference" [("name", Text.quote m.name)]

/-- The description of a projection. -/
def projection (m : Projection) : String :=
  fields "Projection" [("property", propertyReference m.property)]

/-- The description of a sort key. -/
def propertyOrder (m : PropertyOrder) : String :=
  fields "PropertyOrder"
    [("property", propertyReference m.property),
      ("direction", (Member.direction m.direction).text)]

/-- The description of a partition. -/
def partitionId (m : PartitionId) : String :=
  fields "PartitionId"
    [("project_id", optional Text.quote m.projectId),
      ("namespace_id", optional Text.quote m.namespaceId)]

/-- The fields of a filter, which has both parts by name though only one is there. -/
def filterFields (property composite : String) : List (String × String) :=
  [("property_filter", property), ("composite_filter", composite)]

/-- The fields of a property filter whose mapping has the given description. -/
def propertyFilterFields (property : PropertyReference) (op : PropertyOperator)
    (value : String) : List (String × String) :=
  [("property", propertyReference property), ("op", (Member.property op).text), ("value", value)]

/-- The fields of a composite filter whose parts have the given description. -/
def compositeFilterFields (op : CompositeOperator) (filters : String) :
    List (String × String) :=
  [("op", (Member.composite op).text), ("filters", filters)]

/-- The fields of a compiled query whose filter, limit and offset have the given
descriptions. -/
def queryFields {α : Type} (m : QueryMessage α) (filter limit offset : String) :
    List (String × String) :=
  [("kinds", tuple (m.kinds.map kindExpression)),
    ("projections", tuple (m.projections.map projection)),
    ("filter", filter),
    ("orders", tuple (m.orders.map propertyOrder)),
    ("distinct_on", tuple (m.distinctOn.map propertyReference)),
    ("start_cursor", optional Text.quoteBytes m.startCursor),
    ("limit", limit),
    ("offset", offset)]

/-- The description of a comparison from those of its parts. -/
def comparison (property op operand : String) : String :=
  call "PropertyCondition" (commas [property, op, operand])

/-- The description of a combination from those of its parts. -/
def combination (op : String) (parts : List String) : String :=
  call "CompositeCondition" (op ++ ", " ++ commas parts)

/-- What is not described again inside itself: a place, a container of messages by its mark, and two
of the lists of a builder. -/
inductive Spot where
  /-- A place of a workspace. -/
  | place (number : Nat)
  /-- A container in messages, by its mark. -/
  | part (mark : Nat)
  /-- The kinds of a builder. -/
  | kinds (id : Nat)
  /-- The projections of a builder. -/
  | projections (id : Nat)
  deriving DecidableEq, Repr

/-- The description of something at a spot, unless that is in `entered`: an ellipsis stands for it
there. -/
def once (entered : List Spot) (spot : Option Spot) (ellipsis : String)
    (describe : List Spot → Except Failure String) : Except Failure String :=
  match spot with
  | none => describe entered
  | some spot => if spot ∈ entered then .ok ellipsis else describe (spot :: entered)

/-- The two ways of putting a value into text. -/
inductive Style where
  /-- So that its type can be seen. -/
  | described
  /-- For what it is: a text stands for itself, a member for its qualified name, and a message
  for its fields in a row. Everything else is described. -/
  | displayed
  deriving DecidableEq, Repr

/-- A text in a style. -/
def text : Style → String → String
  | .described, s => Text.quote s
  | .displayed, s => s

/-- A member in a style. -/
def member : Style → Member → String
  | .described, m => m.text
  | .displayed, m => m.enumeration.name ++ "." ++ m.spelling

/-- A message in a style, from its described fields. -/
def message (style : Style) (name : String) (described : List (String × String)) : String :=
  match style with
  | .described => fields name described
  | .displayed => assignments " " described

end Describe

open Describe (Spot Style)

mutual

/-- The text of a value inside of some spots, and at a place if it has one. The place is handed down
since `content` has lost it. -/
def Value.describeIn (style : Style) (entered : List Spot) (place : Option Nat) :
    Value → Except Failure String
  | .none => .ok "None"
  | .bool b => .ok (Describe.bool b)
  | .int n => writeInteger n
  | .float x => .ok x.write
  | .text s => .ok (Describe.text style s)
  | .bytes b => .ok (Text.quoteBytes b)
  | .list items =>
      Describe.once entered (place.map .place) "[...]" fun entered => do
        return Describe.list (← describeItems entered items)
  | .tuple items =>
      Describe.once entered (place.map .place) "(...)" fun entered => do
        return Describe.tuple (← describeItems entered items)
  | .mapping entries =>
      Describe.once entered (place.map .place) "\x7b...\x7d" fun entered => do
        return Describe.mapping (← describeEntries entered entries)
  | .object number look => (look ()).describeIn style entered (some number)
  | .unseen => .error .endless
  | .member m => .ok (Describe.member style m)
  | .key path keyNamespace =>
      Describe.once entered (place.map .place) "..." fun entered => do
        let path ← path.describeIn .described entered Option.none
        let keyNamespace ← keyNamespace.describeIn .described entered Option.none
        return Describe.fields "Key" [("path", path), ("namespace", keyNamespace)]
  | .comparison _ _ property op operand => do
      let property ← property.describeIn .described entered Option.none
      let op ← describeOperator entered op
      let operand ← operand.describeIn .described entered Option.none
      return Describe.comparison property op operand
  | .combination _ op parts => do
      let parts ← describeItems entered parts
      let op ← describeOperator entered op
      return Describe.combination op parts
  | .order property direction =>
      Describe.once entered (place.map .place) "..." fun entered => do
        let property ← property.describeIn .described entered Option.none
        let direction ← direction.describeIn .described entered Option.none
        return Describe.fields "Order" [("property", property), ("direction", direction)]
  | .group property =>
      Describe.once entered (place.map .place) "..." fun entered => do
        return Describe.fields "Group"
          [("property", ← property.describeIn .described entered Option.none)]
  | .config defaultNamespace strict =>
      Describe.once entered (place.map .place) "..." fun entered => do
        let defaultNamespace ← defaultNamespace.describeIn .described entered Option.none
        let strict ← strict.describeIn .described entered Option.none
        return Describe.fields "QueryConfig"
          [("default_namespace", defaultNamespace), ("strict", strict)]
  | .message m => do
      return Describe.message style m.cls.name (← describeMessage entered m)
  | .query id state => describeState entered id state
  | .recorder _ name => do
      return Describe.call "Stub" (← name.describeIn .described entered Option.none)
  | .answering .. => .ok "Returns()"
  | .scoped _ lead => do
      return Describe.call "Scoped" (← lead.describeIn .described entered Option.none)
  | .giving .. => .ok "Gives()"
termination_by structural v => v

/-- The operator of a condition as its description shows it: the spelling of a member; of
anything else, what it has as its value. -/
def describeOperator (entered : List Spot) : Value → Except Failure String
  | .member m => .ok m.spelling
  | .comparison _ _ _ _ operand => operand.describeIn .displayed entered Option.none
  | .message (.propertyFilter ⟨_, _, value, mark⟩) =>
      Describe.once entered (mark.map .part) "\x7b...\x7d" fun entered => do
        return Describe.mapping (← describeMapping entered value)
  | .object _ look => describeOperator entered (look ())
  | v => .error (.noAttribute v.typeName "value")
termination_by structural v => v

/-- The descriptions of items, in order. -/
def describeItems (entered : List Spot) : List Value → Except Failure (List String)
  | [] => .ok []
  | v :: rest => do
      let item ← v.describeIn .described entered Option.none
      let items ← describeItems entered rest
      return item :: items
termination_by structural items => items

/-- The descriptions of entries, in order. -/
def describeEntries (entered : List Spot) :
    List (Value × Value) → Except Failure (List (String × String))
  | [] => .ok []
  | (k, v) :: rest => do
      let key ← k.describeIn .described entered Option.none
      let value ← v.describeIn .described entered Option.none
      let entries ← describeEntries entered rest
      return (key, value) :: entries
termination_by structural entries => entries

/-- The descriptions of the entries of a mapping from texts, in order. -/
def describeMapping (entered : List Spot) :
    List (String × Value) → Except Failure (List (String × String))
  | [] => .ok []
  | (k, v) :: rest => do
      let value ← v.describeIn .described entered Option.none
      let entries ← describeMapping entered rest
      return (Text.quote k, value) :: entries
termination_by structural entries => entries

/-- The described fields of a property filter. -/
def describePropertyFilter (entered : List Spot) :
    PropertyFilter Value → Except Failure (List (String × String))
  | ⟨property, op, value, mark⟩ => do
      let value ← Describe.once entered (mark.map .part) "\x7b...\x7d" fun entered => do
        return Describe.mapping (← describeMapping entered value)
      return Describe.propertyFilterFields property op value
termination_by structural m => m

/-- The described fields of a filter. -/
def describeFilter (entered : List Spot) :
    Filter Value → Except Failure (List (String × String))
  | .property filter => do
      let fields ← describePropertyFilter entered filter
      return Describe.filterFields (Describe.fields "PropertyFilter" fields) "None"
  | .composite op filters mark => do
      let parts ← Describe.once entered (mark.map .part) "(...)" fun entered => do
        return Describe.tuple (← describeFilters entered filters)
      return Describe.filterFields "None"
        (Describe.fields "CompositeFilter" (Describe.compositeFilterFields op parts))
termination_by structural f => f

/-- The descriptions of filters, in order. -/
def describeFilters (entered : List Spot) :
    List (Filter Value) → Except Failure (List String)
  | [] => .ok []
  | f :: rest => do
      let fields ← describeFilter entered f
      let items ← describeFilters entered rest
      return Describe.fields "Filter" fields :: items
termination_by structural filters => filters

/-- The description of a filter that may be absent. -/
def describeFilter? (entered : List Spot) : Option (Filter Value) → Except Failure String
  | some f => do return Describe.fields "Filter" (← describeFilter entered f)
  | Option.none => .ok "None"
termination_by structural filter => filter

/-- The described fields of a compiled query. -/
def describeQueryMessage (entered : List Spot) :
    QueryMessage Value → Except Failure (List (String × String))
  | ⟨kinds, projections, filter, orders, distinctOn, startCursor, limit, offset⟩ => do
      let shownFilter ← describeFilter? entered filter
      let shownLimit ← Describe.optionalInteger limit
      let shownOffset ← writeInteger offset
      return Describe.queryFields (α := Value)
        ⟨kinds, projections, filter, orders, distinctOn, startCursor, limit, offset⟩
        shownFilter shownLimit shownOffset
termination_by structural m => m

/-- The described fields of a message. -/
def describeMessage (entered : List Spot) :
    Message Value → Except Failure (List (String × String))
  | .bare => .ok []
  | .kindExpression m => .ok [("name", Text.quote m.name)]
  | .propertyReference m => .ok [("name", Text.quote m.name)]
  | .projection m => .ok [("property", Describe.propertyReference m.property)]
  | .propertyOrder m =>
      .ok [("property", Describe.propertyReference m.property),
        ("direction", (Member.direction m.direction).text)]
  | .propertyFilter m => describePropertyFilter entered m
  | .compositeFilter ⟨op, filters, mark⟩ => do
      let parts ← Describe.once entered (mark.map .part) "(...)" fun entered => do
        return Describe.tuple (← describeFilters entered filters)
      return Describe.compositeFilterFields op parts
  | .filter m => describeFilter entered m
  | .query m => describeQueryMessage entered m
  | .partitionId m =>
      .ok [("project_id", Describe.optional Text.quote m.projectId),
        ("namespace_id", Describe.optional Text.quote m.namespaceId)]
  | .request ⟨partition, query⟩ => do
      let fields ← describeQueryMessage entered query
      return [("partition_id", Describe.partitionId partition),
        ("query", Describe.fields "WireQuery" fields)]
termination_by structural m => m

/-- The description of a builder. -/
def describeState (entered : List Spot) (id : Nat) :
    QueryState Value → Except Failure String
  | ⟨_, kinds, projections, filters, orders, groups, _, limit, offset⟩ => do
      let kinds ← Describe.once entered (some (.kinds id)) "[...]" fun entered => do
        return Describe.list (← describeItems entered kinds)
      let projections ← Describe.once entered (some (.projections id)) "[...]" fun entered => do
        return Describe.list (← describeItems entered projections)
      let limit ← limit.describeIn .described entered Option.none
      let offset ← offset.describeIn .described entered Option.none
      return Describe.fields "Query"
        [("kinds", kinds), ("projections", projections),
          ("filters", Decimal.write filters.length), ("orders", Decimal.write orders.length),
          ("groups", Decimal.write groups.length), ("limit", limit), ("offset", offset)]
termination_by structural state => state

end

/-- The description of a value, as it stands in messages of failures. -/
def Value.describe (v : Value) : Except Failure String := v.describeIn .described [] Option.none

/-- The text of a value where it is shown for what it is: a text shows itself, without quotes. -/
def Value.display (v : Value) : Except Failure String := v.describeIn .displayed [] Option.none

end EntityQuery
