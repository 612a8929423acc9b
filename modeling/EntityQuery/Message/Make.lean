import EntityQuery.Message.Validate

/-!
# Making messages from parts

A message that is put together field by field is checked like one that is read: each function
below hands its parts to the validation of the class under their plain names, so a part that
is wrong is reported under the name that a program uses.

A part whose type is already that of the field needs no check and is not asked for one; the
lemmas say what is left of the validation in each case.
-/

namespace EntityQuery

/-- Fields by their plain names, as entries of a mapping. -/
def plainFields (fields : List (String × Value)) : List (Value × Value) :=
  fields.map fun (k, v) => (.text k, v)

/-- A kind from its name. -/
def KindExpression.make (name : Value) : Except Failure KindExpression :=
  (ofEntries (plainFields [("name", name)])).orInvalid .kindExpression

/-- A property reference from its name. -/
def PropertyReference.make (name : Value) : Except Failure PropertyReference :=
  (ofEntries (plainFields [("name", name)])).orInvalid .propertyReference

/-- A projection of the property with a name. -/
def Projection.make (name : Value) : Except Failure Projection :=
  Projection.mk <$> PropertyReference.make name

/-- A sort key from its property and its direction. -/
def PropertyOrder.make (property : PropertyReference) (direction : Value) :
    Except Failure PropertyOrder :=
  (ofEntries (plainFields
    [("property", .message (.propertyReference property)), ("direction", direction)])).orInvalid
    .propertyOrder

/-- A property filter from its property, its operator and its value. -/
def PropertyFilter.make (property : PropertyReference) (op value : Value) :
    Except Failure (PropertyFilter Value) :=
  (ofEntries (plainFields
    [("property", .message (.propertyReference property)), ("op", op),
      ("value", value)])).orInvalid .propertyFilter

/-- A composite filter from its operator and its parts. The parts are checked as `Filter.checkItems`
does, since they are what units have answered. -/
def CompositeFilter.make (op : Value) (filters : List Value) :
    Except Failure (CompositeFilter Value) :=
  (ofEntries (plainFields [("op", op), ("filters", .tuple filters)])).orInvalid .compositeFilter

/-- A compiled query from its parts, of which the kinds, the projections and the filter are messages
already. Orders and groups may be messages of the wrong class; that is found here. -/
def QueryMessage.make (kinds : List KindExpression) (projections : List Projection)
    (filter : Option (Filter Value)) (orders groups : List (Message Value))
    (startCursor limit offset : Value) : Except Failure (QueryMessage Value) :=
  (ofEntries (plainFields
    [("kinds", .tuple (kinds.map fun k => .message (.kindExpression k))),
      ("projections", .tuple (projections.map fun p => .message (.projection p))),
      ("filter", match filter with | some f => .message (.filter f) | none => .none),
      ("orders", .tuple (orders.map .message)),
      ("distinct_on", .tuple (groups.map .message)),
      ("start_cursor", startCursor), ("limit", limit), ("offset", offset)])).orInvalid .query

/-- A partition from its project and its namespace. -/
def PartitionId.make (projectId namespaceId : Value) : Except Failure PartitionId :=
  (ofEntries (plainFields
    [("project_id", projectId), ("namespace_id", namespaceId)])).orInvalid .partitionId

/-- A kind is made from whatever is a text. -/
theorem KindExpression.make_eq (name : Value) :
    make name = Checked.orInvalid .kindExpression
      (Checked.under (.key "name") ((checkText name).map KindExpression.mk)) := by
  rcases h : checkText name with (_ | _) | _ <;>
    simp [make, ofEntries, plainFields, Field.name, Spelling.same, Spelling.required,
      Spelling.find?, Spelling.given?, Entries.get?, Value.asText?, h, Checked.under,
      Checked.and, Except.map]

/-- A property reference is made from whatever is a text. -/
theorem PropertyReference.make_eq (name : Value) :
    make name = Checked.orInvalid .propertyReference
      (Checked.under (.key "name") ((checkText name).map PropertyReference.mk)) := by
  rcases h : checkText name with (_ | _) | _ <;>
    simp [make, ofEntries, plainFields, Field.name, Spelling.same, Spelling.required,
      Spelling.find?, Spelling.given?, Entries.get?, Value.asText?, h, Checked.under,
      Checked.and, Except.map]

end EntityQuery
