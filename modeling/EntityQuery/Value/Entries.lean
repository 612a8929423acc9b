import EntityQuery.Value.Equality
import EntityQuery.Message.Problem
import EntityQuery.Value.Describe

/-!
# Items and entries

Going through a value item by item, and making mappings.

* `Value.items?` gives the items of everything that has any: the items of a list or tuple,
  the characters of a text, the bytes of a byte string, the keys of a mapping, and the fields
  of a message as pairs of name and value.
* `Entries.set` is the update of a mapping: it replaces the value of a like key in its place,
  or adds an entry at the end.
* `Value.toEntries` reads a value as a mapping: a mapping as it is, anything else as pairs of
  key and value, the later of two like keys winning.
-/

namespace EntityQuery

/-- The fields of a message by name, in declaration order, absent ones included. -/
def Message.fields : Message Value → List (String × Value)
  | .bare => []
  | .kindExpression m => [("name", .text m.name)]
  | .propertyReference m => [("name", .text m.name)]
  | .projection m => [("property", .message (.propertyReference m.property))]
  | .propertyOrder m =>
      [("property", .message (.propertyReference m.property)),
        ("direction", .member (.direction m.direction))]
  | .propertyFilter m =>
      [("property", .message (.propertyReference m.property)),
        ("op", .member (.property m.op)), ("value", .ofTexts m.value)]
  | .compositeFilter m =>
      [("op", .member (.composite m.op)),
        ("filters", .tuple (m.filters.map fun f => .message (.filter f)))]
  | .filter (.property f) =>
      [("property_filter", .message (.propertyFilter f)), ("composite_filter", .none)]
  | .filter (.composite op filters mark) =>
      [("property_filter", .none),
        ("composite_filter", .message (.compositeFilter ⟨op, filters, mark⟩))]
  | .query m =>
      [("kinds", .tuple (m.kinds.map fun k => .message (.kindExpression k))),
        ("projections", .tuple (m.projections.map fun p => .message (.projection p))),
        ("filter", match m.filter with | some f => .message (.filter f) | none => .none),
        ("orders", .tuple (m.orders.map fun o => .message (.propertyOrder o))),
        ("distinct_on", .tuple (m.distinctOn.map fun g => .message (.propertyReference g))),
        ("start_cursor", match m.startCursor with | some b => .bytes b | none => .none),
        ("limit", .ofInt? m.limit), ("offset", .int m.offset)]
  | .partitionId m =>
      [("project_id", .ofText? m.projectId), ("namespace_id", .ofText? m.namespaceId)]
  | .request m =>
      [("partition_id", .message (.partitionId m.partitionId)),
        ("query", .message (.query m.query))]

/-- The items that a message is gone through by: its fields as pairs of name and value. -/
def Message.fieldItems (m : Message Value) : List Value :=
  m.fields.map fun (k, v) => .tuple [.text k, v]

/-- The items of a value that has any. -/
def Value.items? (v : Value) : Option (List Value) :=
  match v.content with
  | .list items => some items
  | .tuple items => some items
  | .text s => some (s.toList.map fun c => .text (String.singleton c))
  | .member m => some (m.spelling.toList.map fun c => .text (String.singleton c))
  | .bytes b => some (b.map fun n => .int n.toNat)
  | .mapping entries => some (entries.map Prod.fst)
  | .message m => some m.fieldItems
  | _ => Option.none

/-- The items of a value, or the failure to go through it. -/
def Value.items (v : Value) : Except Failure (List Value) :=
  match v.items? with
  | some items => .ok items
  | Option.none => .error (.notIterable v.typeName)

/-- The number of items of a value that has one. A message has none, though it can be gone
through. -/
def Value.length (v : Value) : Except Failure Nat :=
  match v.content with
  | .message m => .error (.noLength (Value.message m).typeName)
  | v =>
      match v.items? with
      | some items => .ok items.length
      | Option.none => .error (.noLength v.typeName)

/-- The two items of a value that is taken apart into a pair. -/
def Value.unpack (v : Value) : Except Failure (Value × Value) :=
  match v.items? with
  | some [a, b] => .ok (a, b)
  | some (_ :: _ :: _ :: _) => .error .tooManyItems
  | some items => .error (.tooFewItems items.length)
  | Option.none => .error (.notUnpackable v.typeName)

namespace Entries

/-- Sets the value of a key: in its place if there is a like key, else at the end. -/
def set (key value : Value) : List (Value × Value) → List (Value × Value)
  | [] => [(key, value)]
  | (k, v) :: rest => if k.alike key then (k, value) :: rest else (k, v) :: set key value rest

/-- The value of a text key. -/
def get? (name : String) : List (Value × Value) → Option Value
  | [] => none
  | (k, v) :: rest => if k.asText? = some name then some v else get? name rest

/-- Reads items as entries, from the given position on, on top of those read so far. -/
def ofItems (index : Nat) (entries : List (Value × Value)) :
    List Value → Except Failure (List (Value × Value))
  | [] => .ok entries
  | item :: rest =>
      match item.items? with
      | some [k, v] => do
          k.checkHashable
          ofItems (index + 1) (set k v entries) rest
      | some items => .error (.entryLength index items.length)
      | none => .error (.entryNotSequence index)

end Entries

/-- Reads a value as the entries of a mapping. -/
def Value.toEntries (v : Value) : Except Failure (List (Value × Value)) :=
  match v.content with
  | .mapping entries => .ok entries
  | _ => do Entries.ofItems 0 [] (← v.items)

end EntityQuery
