import EntityQuery.Message.Validate
import EntityQuery.Text.Base64

/-!
# Bodies of messages

The encoded form of a message: a mapping from field names to plain values that a transport
can send as it is.

* The fields of a message appear under their wire names, in declaration order. A field that is
  absent is left out; a sequence is there even if it is empty, and so is an offset of zero.
* Inside the mapping of a property filter nothing is left out. Values there are encoded by
  what they are: bytes as URL-safe base64, members by their spelling, tuples as lists, and a
  number that is not finite, for which the format has no spelling, as nothing.
* Objects that have fields are encoded by their fields. Conditions, builders and the caller's
  own objects have no encoding, and neither has data that is nested in itself or too deep.
  Every value in the mapping is a level, and so is what a member is spelt by; a filter counts
  as one level among filters, and as two in a message of any other class.
* `Message.body` is the body of a message on its own.
-/

namespace EntityQuery

/-- The full name of the class of a value, for classes that no body knows. -/
def Value.className (v : Value) : String :=
  match v.content with
  | .comparison .. | .combination .. => "cqrs_ddd_datastore.filters." ++ v.typeName
  | .query .. | .unseen => "cqrs_ddd_datastore.query." ++ v.typeName
  | _ => "__main__." ++ v.typeName

/-- The body of a kind. -/
def KindExpression.body (m : KindExpression) : Value :=
  .ofTexts [(Field.name.wire, .text m.name)]

/-- The body of a property reference. -/
def PropertyReference.body (m : PropertyReference) : Value :=
  .ofTexts [(Field.name.wire, .text m.name)]

/-- The body of a projection. -/
def Projection.body (m : Projection) : Value :=
  .ofTexts [(Field.property.wire, m.property.body)]

/-- The body of a sort key. -/
def PropertyOrder.body (m : PropertyOrder) : Value :=
  .ofTexts [(Field.property.wire, m.property.body),
    (Field.direction.wire, .text m.direction.spelling)]

/-- An optional field: an entry if there is something, else none. -/
def optionalField {α : Type} (field : Spelling) (body : α → Value) :
    Option α → List (String × Value)
  | some a => [(field.wire, body a)]
  | none => []

/-- The body of a partition. -/
def PartitionId.body (m : PartitionId) : Value :=
  .ofTexts (optionalField Field.projectId .text m.projectId ++
    optionalField Field.namespaceId .text m.namespaceId)

/-- The body of a property filter whose mapping has the given body. -/
def PropertyFilter.bodyOf {α : Type} (m : PropertyFilter α) (value : Value) : Value :=
  .ofTexts [(Field.property.wire, m.property.body), (Field.op.wire, .text m.op.spelling),
    (Field.value.wire, value)]

/-- The body of a composite filter whose parts have the given bodies. -/
def CompositeFilter.bodyOf (op : CompositeOperator) (filters : List Value) : Value :=
  .ofTexts [(Field.op.wire, .text op.spelling), (Field.filters.wire, .list filters)]

/-- The body of a compiled query whose filter has the given body. -/
def QueryMessage.bodyOf {α : Type} (m : QueryMessage α) (filter : Option Value) : Value :=
  .ofTexts (
    [(Field.kinds.wire, .list (m.kinds.map KindExpression.body)),
      (Field.projections.wire, .list (m.projections.map Projection.body))] ++
    optionalField Field.filter id filter ++
    [(Field.orders.wire, .list (m.orders.map PropertyOrder.body)),
      (Field.distinctOn.wire, .list (m.distinctOn.map PropertyReference.body))] ++
    optionalField Field.startCursor (fun b => .text (Text.Base64.encode b)) m.startCursor ++
    optionalField Field.limit .int m.limit ++
    [(Field.offset.wire, .int m.offset)])

mutual

/-- The key of a mapping inside a body, where the format has texts only: a text itself, a
member's spelling, and what else has an encoding of its own written out; a tuple becomes its
items between commas, and messages and objects with fields their texts. -/
def Value.bodyKey : Value → Except Failure String
  | .none => .ok "None"
  | .bool b => .ok (if b then "true" else "false")
  | .int n => writeInteger n
  | .float x => .ok (if x.isFinite then x.write else "None")
  | .text s => .ok s
  | .bytes b => .ok (Text.Base64.encode b)
  | .tuple items => do return String.intercalate "," (← bodyKeys items)
  | .object _ look => (look ()).bodyKey
  | .member m => .ok m.spelling
  | .key path keyNamespace => (Value.key path keyNamespace).display
  | .order property direction => (Value.order property direction).display
  | .group property => (Value.group property).display
  | .config defaultNamespace strict => (Value.config defaultNamespace strict).display
  | .message m => (Value.message m).display
  | v => .error (.unencodable v.className)
termination_by structural v => v

/-- The keys that items would be. -/
def bodyKeys : List Value → Except Failure (List String)
  | [] => .ok []
  | v :: rest => do
      let key ← v.bodyKey
      let keys ← bodyKeys rest
      return key :: keys
termination_by structural items => items

end

/-- An encoding that needs another level. Beyond `Nesting.limit` it fails with `tooDeep`, whatever
it would have been. -/
def Nesting.ifRoom {α : Type} (n : Nesting) (encoded : Except Failure α) : Except Failure α :=
  if n.hasRoom then encoded else .error .tooDeep

mutual

/-- The encoded form of a value at a position inside the mapping of a property filter. `n` knows the
depth and the places around the value, as data may be inside of itself. -/
def Value.bodyIn (n : Nesting) : Value → Except Failure Value
  | .none => n.ifRoom (.ok .none)
  | .bool b => n.ifRoom (.ok (.bool b))
  | .int i => n.ifRoom (.ok (.int i))
  | .float x => n.ifRoom (.ok (if x.isFinite then .float x else .none))
  | .text s => n.ifRoom (.ok (.text s))
  | .bytes b => n.ifRoom (.ok (.text (Text.Base64.encode b)))
  | .list items => n.ifRoom do return .list (← bodyItems n.deeper items)
  | .tuple items => n.ifRoom do return .list (← bodyItems n.deeper items)
  | .mapping entries => n.ifRoom do return .mapping (← bodyEntries n.deeper [] entries)
  | .object number look =>
      if n.isInside number then .error .circular else (look ()).bodyIn (n.enter number)
  | .member m => n.ifRoom (n.deeper.ifRoom (.ok (.text m.spelling)))
  | .key path keyNamespace => n.ifRoom do
      let path ← path.bodyIn n.deeper
      let keyNamespace ← keyNamespace.bodyIn n.deeper
      return .ofTexts [("path", path), ("namespace", keyNamespace)]
  | .order property direction => n.ifRoom do
      let property ← property.bodyIn n.deeper
      let direction ← direction.bodyIn n.deeper
      return .ofTexts [("property", property), ("direction", direction)]
  | .group property => n.ifRoom do
      return .ofTexts [("property", ← property.bodyIn n.deeper)]
  | .config defaultNamespace strict => n.ifRoom do
      let defaultNamespace ← defaultNamespace.bodyIn n.deeper
      let strict ← strict.bodyIn n.deeper
      return .ofTexts [("default_namespace", defaultNamespace), ("strict", strict)]
  | .message m => n.ifRoom (bodyMessage n.deeper m)
  | v => n.ifRoom (.error (.unencodable v.className))
termination_by structural v => v

/-- The encoded forms of items. -/
def bodyItems (n : Nesting) : List Value → Except Failure (List Value)
  | [] => .ok []
  | v :: rest => do
      let item ← v.bodyIn n
      let items ← bodyItems n rest
      return item :: items
termination_by structural items => items

/-- The encoded forms of entries, on top of those encoded so far; keys that become one text
leave the last value. -/
def bodyEntries (n : Nesting) (encoded : List (Value × Value)) :
    List (Value × Value) → Except Failure (List (Value × Value))
  | [] => .ok encoded
  | (k, v) :: rest => do
      let key ← k.bodyKey
      let value ← v.bodyIn n
      bodyEntries n (Entries.set (.text key) value encoded) rest
termination_by structural entries => entries

/-- The encoded forms of the entries of a mapping from texts. -/
def bodyMapping (n : Nesting) : List (String × Value) → Except Failure (List (String × Value))
  | [] => .ok []
  | (k, v) :: rest => do
      let value ← v.bodyIn n
      let entries ← bodyMapping n rest
      return (k, value) :: entries
termination_by structural entries => entries

/-- The body of a property filter. -/
def bodyPropertyFilter (n : Nesting) : PropertyFilter Value → Except Failure Value
  | ⟨property, op, value, mark⟩ => do
      let entries ← bodyMapping n value
      return PropertyFilter.bodyOf (α := Value) ⟨property, op, value, mark⟩ (.ofTexts entries)
termination_by structural m => m

/-- The body of a filter. -/
def bodyFilter (n : Nesting) : Filter Value → Except Failure Value
  | .property m => n.ifRoom do
      return .ofTexts [(Field.propertyFilter.wire, ← bodyPropertyFilter n.deeper m)]
  | .composite op filters _ => n.ifRoom do
      return .ofTexts [(Field.compositeFilter.wire,
        CompositeFilter.bodyOf op (← bodyFilters n.deeper filters))]
termination_by structural m => m

/-- The bodies of filters. -/
def bodyFilters (n : Nesting) : List (Filter Value) → Except Failure (List Value)
  | [] => .ok []
  | f :: rest => do
      let part ← bodyFilter n f
      let parts ← bodyFilters n rest
      return part :: parts
termination_by structural filters => filters

/-- The body of a filter that may be absent. -/
def bodyFilter? (n : Nesting) : Option (Filter Value) → Except Failure (Option Value)
  | Option.none => .ok Option.none
  | some f => do return some (← bodyFilter n f)
termination_by structural filter => filter

/-- The body of a compiled query. -/
def bodyQuery (n : Nesting) : QueryMessage Value → Except Failure Value
  | ⟨kinds, projections, filter, orders, distinctOn, startCursor, limit, offset⟩ => do
      let part ← bodyFilter? n.deeper filter
      return QueryMessage.bodyOf (α := Value)
        ⟨kinds, projections, filter, orders, distinctOn, startCursor, limit, offset⟩ part
termination_by structural m => m

/-- The body of a message at a position inside other data. A message in a mapping is encoded like
one on its own, only deeper. -/
def bodyMessage (n : Nesting) : Message Value → Except Failure Value
  | .bare => .ok (.ofTexts [])
  | .kindExpression m => .ok m.body
  | .propertyReference m => .ok m.body
  | .projection m => .ok m.body
  | .propertyOrder m => .ok m.body
  | .propertyFilter m => bodyPropertyFilter n m
  | .compositeFilter ⟨op, filters, _⟩ => do
      return CompositeFilter.bodyOf op (← bodyFilters n.deeper filters)
  | .filter m => bodyFilter n m
  | .query m => bodyQuery n m
  | .partitionId m => .ok m.body
  | .request ⟨partition, query⟩ => do
      return .ofTexts
        [(Field.partitionId.wire, partition.body), (Field.query.wire, ← bodyQuery n query)]
termination_by structural m => m

end

/-- The body of a message, from the outermost level. -/
def Message.body (m : Message Value) : Except Failure Value := bodyMessage .outside m

/-- The body of a query with its filter as the only part that nests. -/
theorem bodyQuery_eq (n : Nesting) (m : QueryMessage Value) :
    bodyQuery n m = (bodyFilter? n.deeper m.filter).map m.bodyOf := by
  obtain ⟨_, _, filter, _⟩ := m
  cases filter with
  | none => rfl
  | some f => simp only [bodyQuery, bodyFilter?]; cases bodyFilter n.deeper f <;> rfl

end EntityQuery
