import EntityQuery.Message.Checked
import EntityQuery.Nesting

/-!
# Validation of messages

A message of a class is made from loose data: from a message of the class, which is taken as
it is, or from a mapping with the fields of the class.

* Fields are checked in declaration order and all problems are reported. Keys that name no
  field are ignored.
* Filters nest. `Filter.checkIn` follows the data down; that a filter has exactly one of its
  two parts is asked only where both parts are acceptable, so a problem is reported at the
  innermost place.
* Data for a filter that is inside itself is refused where it is met again, and data for a
  filter inside too many others where there is no level left. A filter takes one level among
  filters, and two in a message of any other class. What has been too deep once is not looked
  at again in the same validation, so a `Descent` passes on what has been refused that way.
* `Message.validate` is the entry: it names the class that was asked for.
-/

namespace EntityQuery

open Checked (complain)

/-! ## The spellings of the fields -/

namespace Field

def name : Spelling := .same "name"
def property : Spelling := .same "property"
def direction : Spelling := .same "direction"
def op : Spelling := .same "op"
def value : Spelling := .same "value"
def filters : Spelling := .same "filters"
def propertyFilter : Spelling := ⟨"propertyFilter", "property_filter"⟩
def compositeFilter : Spelling := ⟨"compositeFilter", "composite_filter"⟩
def kinds : Spelling := ⟨"kind", "kinds"⟩
def projections : Spelling := ⟨"projection", "projections"⟩
def filter : Spelling := .same "filter"
def orders : Spelling := ⟨"order", "orders"⟩
def distinctOn : Spelling := ⟨"distinctOn", "distinct_on"⟩
def startCursor : Spelling := ⟨"startCursor", "start_cursor"⟩
def limit : Spelling := .same "limit"
def offset : Spelling := .same "offset"
def projectId : Spelling := ⟨"projectId", "project_id"⟩
def namespaceId : Spelling := ⟨"namespaceId", "namespace_id"⟩
def partitionId : Spelling := ⟨"partitionId", "partition_id"⟩
def query : Spelling := .same "query"

end Field

/-! ## The flat classes -/

/-- A kind, from the fields of a mapping. -/
def KindExpression.ofEntries (entries : List (Value × Value)) : Checked KindExpression :=
  (Checked.of KindExpression.mk).and (Field.name.required checkText entries)

/-- A kind, from loose data. -/
def KindExpression.check (v : Value) : Checked KindExpression :=
  match v.content with
  | .message (.kindExpression m) => .ok m
  | .mapping entries => ofEntries entries
  | _ => complain (.messageExpected .kindExpression)

/-- A property reference, from the fields of a mapping. -/
def PropertyReference.ofEntries (entries : List (Value × Value)) : Checked PropertyReference :=
  (Checked.of PropertyReference.mk).and (Field.name.required checkText entries)

/-- A property reference, from loose data. -/
def PropertyReference.check (v : Value) : Checked PropertyReference :=
  match v.content with
  | .message (.propertyReference m) => .ok m
  | .mapping entries => ofEntries entries
  | _ => complain (.messageExpected .propertyReference)

/-- A projection, from the fields of a mapping. -/
def Projection.ofEntries (entries : List (Value × Value)) : Checked Projection :=
  (Checked.of Projection.mk).and (Field.property.required PropertyReference.check entries)

/-- A projection, from loose data. -/
def Projection.check (v : Value) : Checked Projection :=
  match v.content with
  | .message (.projection m) => .ok m
  | .mapping entries => ofEntries entries
  | _ => complain (.messageExpected .projection)

/-- A sort key, from the fields of a mapping; it is ascending unless it says otherwise. -/
def PropertyOrder.ofEntries (entries : List (Value × Value)) : Checked PropertyOrder :=
  ((Checked.of PropertyOrder.mk).and
    (Field.property.required PropertyReference.check entries)).and
    (Field.direction.defaulted .ascending checkDirection entries)

/-- A sort key, from loose data. -/
def PropertyOrder.check (v : Value) : Checked PropertyOrder :=
  match v.content with
  | .message (.propertyOrder m) => .ok m
  | .mapping entries => ofEntries entries
  | _ => complain (.messageExpected .propertyOrder)

/-- A property filter, from the fields of a mapping. -/
def PropertyFilter.ofEntries (entries : List (Value × Value)) : Checked (PropertyFilter Value) :=
  (((Checked.of (PropertyFilter.mk · · · none)).and
    (Field.property.required PropertyReference.check entries)).and
    (Field.op.required checkPropertyOperator entries)).and
    (Field.value.required checkMapping entries)

/-- A property filter, from loose data. -/
def PropertyFilter.check (v : Value) : Checked (PropertyFilter Value) :=
  match v.content with
  | .message (.propertyFilter m) => .ok m
  | .mapping entries => ofEntries entries
  | _ => complain (.messageExpected .propertyFilter)

/-- A partition, from the fields of a mapping. -/
def PartitionId.ofEntries (entries : List (Value × Value)) : Checked PartitionId :=
  ((Checked.of PartitionId.mk).and
    (Field.projectId.defaulted none (checkOptional checkText) entries)).and
    (Field.namespaceId.defaulted none (checkOptional checkText) entries)

/-- A partition, from loose data. -/
def PartitionId.check (v : Value) : Checked PartitionId :=
  match v.content with
  | .message (.partitionId m) => .ok m
  | .mapping entries => ofEntries entries
  | _ => complain (.messageExpected .partitionId)

/-! ## Filters -/

/-- A filter from its two parts, exactly one of which has to be there; otherwise
`exactlyOneExpected`. -/
def Filter.ofParts (property : Option (PropertyFilter Value))
    (composite : Option (CompositeFilter Value)) : Checked (Filter Value) :=
  match property, composite with
  | some f, none => .ok (.property f)
  | none, some c => .ok (.composite c.op c.filters c.mark)
  | _, _ => complain .exactlyOneExpected

/-- A filter from the results for its two parts, whose problems come first. The parts are counted by
`ofParts` only if both have been accepted. -/
def Filter.ofCheckedParts (property : Checked (Option (PropertyFilter Value)))
    (composite : Checked (Option (CompositeFilter Value))) : Checked (Filter Value) :=
  ((Checked.of Prod.mk).and property).and composite >>= fun parts => ofParts parts.1 parts.2

/-- The result of a check that goes down through nested filters, and what has been refused for being
`tooDeep` by then, given what had been before. What is refused outlives the check that refuses it:
the same data is not looked at again, at whatever depth it turns up. -/
abbrev Descent (α : Type) := List Value → Checked α × List Value

/-- A field that has a value if it is not given, and whose check goes down. -/
def Spelling.descend {α : Type} (field : Spelling) (absent : α) (check : Value → Descent α)
    (entries : List (Value × Value)) : Descent α := fun refused =>
  match field.given? entries with
  | some (name, v) =>
      let result := check v refused
      (result.1.under (.key name), result.2)
  | none => (.ok absent, refused)

/-- Filters from items of loose data, from the given position on. Each check is handed what the ones
before it have refused. -/
def Filter.checkItems (check : Value → Descent (Filter Value)) (index : Nat) :
    List Value → Descent (List (Filter Value))
  | [], refused => (.ok [], refused)
  | v :: rest, refused =>
      let first := check v refused
      let others := checkItems check (index + 1) rest first.2
      (((Checked.of List.cons).and (first.1.under (.index index))).and others.1, others.2)

/-- A sequence of filters, from loose data. -/
def Filter.checkSequence (check : Value → Descent (Filter Value)) (v : Value) :
    Descent (List (Filter Value)) := fun refused =>
  match v.sequence? with
  | some items => Filter.checkItems check 0 items refused
  | none => (complain .sequenceExpected, refused)

/-- A composite filter, from the fields of a mapping; its operator is `and` unless it says
otherwise. -/
def CompositeFilter.descend (check : Value → Descent (Filter Value))
    (entries : List (Value × Value)) : Descent (CompositeFilter Value) := fun refused =>
  let op := Field.op.defaulted .and checkCompositeOperator entries
  let filters := Field.filters.descend [] (Filter.checkSequence check) entries refused
  (((Checked.of (CompositeFilter.mk · · none)).and op).and filters.1, filters.2)

/-- A composite filter or nothing, from loose data. -/
def CompositeFilter.descend? (check : Value → Descent (Filter Value)) (v : Value) :
    Descent (Option (CompositeFilter Value)) := fun refused =>
  match v.content with
  | .none => (.ok none, refused)
  | .message (.compositeFilter m) => (.ok (some m), refused)
  | .mapping entries =>
      let composite := CompositeFilter.descend check entries refused
      (composite.1.map some, composite.2)
  | _ => (complain (.messageExpected .compositeFilter), refused)

/-- A filter from loose data with a number of levels left, inside of the data at the places in
`inside`. The guard comes first: data inside of itself, or refused before, is `recursive`, and where
no level is left it is `tooDeep`. -/
def Filter.checkIn (levels : Nat) (inside : List Nat) (v : Value) : Descent (Filter Value) :=
  fun refused =>
    if v.isAmong inside || refused.any v.identical then (complain .recursive, refused)
    else
      match levels with
      -- Refused for good: the same data at a higher level is `recursive` from now on.
      | 0 => (complain .tooDeep, v :: refused)
      | levels + 1 =>
          match v.content with
          -- A filter that has been made is taken as it is, however deep it nests itself.
          | .message (.filter f) => (.ok f, refused)
          | .mapping entries =>
              let property :=
                Field.propertyFilter.defaulted none (checkOptional PropertyFilter.check) entries
              let composite := Field.compositeFilter.descend none
                (CompositeFilter.descend? (Filter.checkIn levels (v.place?.toList ++ inside)))
                entries refused
              (Filter.ofCheckedParts property composite.1, composite.2)
          | _ => (complain (.messageExpected .filter), refused)
termination_by structural levels

/-- Items that are never refused for being too deep are checked one by one. -/
theorem Filter.checkItems_eq_items {check : Value → Descent (Filter Value)} {items : List Value}
    {refused : List Value} (h : ∀ v ∈ items, (check v refused).2 = refused) (index : Nat) :
    Filter.checkItems check index items refused =
      (Checked.items (fun v => (check v refused).1) index items, refused) := by
  induction items generalizing index with
  | nil => rfl
  | cons v rest ih =>
    simp only [List.forall_mem_cons] at h
    simp [Filter.checkItems, Checked.items, h.1, ih h.2]

/-- A filter of its own, from loose data, with all levels of `Nesting.limit` left. -/
def Filter.check (v : Value) : Checked (Filter Value) := (Filter.checkIn Nesting.limit [] v []).1

/-- A filter in a message of another class, from loose data. The message around it takes one level,
so one less than `Nesting.limit` is left. -/
def Filter.checkInMessage (v : Value) : Descent (Filter Value) :=
  Filter.checkIn (Nesting.limit - 1) [] v

/-- A composite filter, from the fields of a mapping. -/
def CompositeFilter.ofEntries (entries : List (Value × Value)) :
    Checked (CompositeFilter Value) :=
  (CompositeFilter.descend Filter.checkInMessage entries []).1

/-- A composite filter, from loose data. -/
def CompositeFilter.check (v : Value) : Checked (CompositeFilter Value) :=
  match v.content with
  | .message (.compositeFilter m) => .ok m
  | .mapping entries => ofEntries entries
  | _ => complain (.messageExpected .compositeFilter)

/-! ## Queries and requests -/

/-- A compiled query, from the fields of a mapping. -/
def QueryMessage.ofEntries (entries : List (Value × Value)) : Checked (QueryMessage Value) :=
  ((((((((Checked.of QueryMessage.mk).and
    (Field.kinds.defaulted [] (checkSequence KindExpression.check) entries)).and
    (Field.projections.defaulted [] (checkSequence Projection.check) entries)).and
    (Field.filter.defaulted none (checkOptional fun v => (Filter.checkInMessage v []).1)
      entries)).and
    (Field.orders.defaulted [] (checkSequence PropertyOrder.check) entries)).and
    (Field.distinctOn.defaulted [] (checkSequence PropertyReference.check) entries)).and
    (Field.startCursor.defaulted none (checkOptional checkBytes) entries)).and
    (Field.limit.defaulted none (checkOptional checkInteger) entries)).and
    (Field.offset.defaulted 0 checkInteger entries)

/-- A compiled query, from loose data. -/
def QueryMessage.check (v : Value) : Checked (QueryMessage Value) :=
  match v.content with
  | .message (.query m) => .ok m
  | .mapping entries => ofEntries entries
  | _ => complain (.messageExpected .query)

/-- A request, from the fields of a mapping. -/
def RequestMessage.ofEntries (entries : List (Value × Value)) :
    Checked (RequestMessage Value) :=
  ((Checked.of RequestMessage.mk).and
    (Field.partitionId.required PartitionId.check entries)).and
    (Field.query.required QueryMessage.check entries)

/-- A request, from loose data. -/
def RequestMessage.check (v : Value) : Checked (RequestMessage Value) :=
  match v.content with
  | .message (.request m) => .ok m
  | .mapping entries => ofEntries entries
  | _ => complain (.messageExpected .request)

/-! ## All classes -/

/-- A bare message, from loose data: any message will do, and so will any mapping, whatever is in
it. -/
def Message.checkBare (v : Value) : Checked (Message Value) :=
  match v.content with
  | .message m => .ok m
  | .mapping _ => .ok .bare
  | _ => complain (.messageExpected .bare)

/-- A message of a class, from loose data. -/
def Message.check (cls : MessageClass) (v : Value) : Checked (Message Value) :=
  match cls with
  | .bare => Message.checkBare v
  | .kindExpression => (KindExpression.check v).map .kindExpression
  | .propertyReference => (PropertyReference.check v).map .propertyReference
  | .projection => (Projection.check v).map .projection
  | .propertyOrder => (PropertyOrder.check v).map .propertyOrder
  | .propertyFilter => (PropertyFilter.check v).map .propertyFilter
  | .compositeFilter => (CompositeFilter.check v).map .compositeFilter
  | .filter => (Filter.check v).map .filter
  | .query => (QueryMessage.check v).map .query
  | .partitionId => (PartitionId.check v).map .partitionId
  | .request => (RequestMessage.check v).map .request

/-- A message of a class from loose data, or everything that is wrong with the data, as one
failure. -/
def Message.validate (cls : MessageClass) (v : Value) : Except Failure (Message Value) :=
  (Message.check cls v).orInvalid cls

/-- A message of a class from its fields by name. Plain names and wire names will both do. -/
def Message.make (cls : MessageClass) (fields : List (String × Value)) :
    Except Failure (Message Value) :=
  Message.validate cls (.ofTexts fields)

end EntityQuery
