import EntityQuery.Message.Checked
import EntityQuery.Value.Attributes

/-!
# Assigning to attributes

What comes of setting an attribute of a value by name. Almost everything is frozen.

* Keys, orders and groups refuse every assignment; configurations refuse their own fields and
  have no room for others. Plain values refuse everything.
* Messages refuse every name that a field could have and take all others but two. Most of them
  change nothing, but what a description is made with has such a name, too: the operations
  that make it, the table of the fields, and fields besides those of the class.
* Conditions, members and the caller's own objects can be changed, and are not looked at again
  before they are used. So an assignment can leave one that has no description.
* The class and the attributes of an object as a whole have names, too: the class is never
  replaced, the attributes only by a mapping.

`Value.assign` is the description of the value afterwards, if there is one, unless the
assignment is refused.
-/

namespace EntityQuery

namespace Assign

/-- The name of the class of an object among its attributes. -/
def classAttribute : String := "__class__"

/-- The name of all attributes of an object among its attributes. -/
def allAttributes : String := "__dict__"

/-- The name of the references to an object, which cannot be set. -/
def referencesAttribute : String := "__weakref__"

/-- The class that the objects of a class share their attributes with. -/
def sharedClass (v : Value) : String :=
  match v.content with
  | .comparison .. | .combination .. => "Condition"
  | .message _ => MessageClass.bare.name
  | v => v.typeName

/-- The attribute that a member has its name in. -/
def memberName : String := "_name_"

/-- The attribute that a member has its spelling in. -/
def memberSpelling : String := "_value_"

/-- The attribute that a message has its fields besides those of its class in. -/
def extraFields : String := "__pydantic_extra__"

/-- The attribute that a message has the table of its fields in. -/
def fieldTable : String := "__pydantic_fields__"

/-- The attribute that a message has the table of its computed fields in. -/
def computedTable : String := "__pydantic_computed_fields__"

/-- The operations that make the description of a message, in the order in which they are
called. -/
def describers : List String := ["__repr_name__", "__repr_str__", "__repr_args__"]

/-- The attributes of messages that are properties and cannot be set. -/
def messageProperties : List String := ["__fields__", "__fields_set__"]

/-- The attributes of an object that can be changed, by name. -/
def attributes (v : Value) : List (String × Value) :=
  match v.content with
  | .comparison _ _ property op operand =>
      [("property", property), ("op", op), ("value", operand)]
  | .combination _ op parts => [("op", op), ("conditions", .tuple parts)]
  | .recorder _ name => [("name", name)]
  | .scoped _ lead => [("prefix", lead)]
  | .member m => [(memberName, .text m.spelling), (memberSpelling, .text m.spelling)]
  | .message m => m.fields
  | _ => []

/-- An attribute of a value, or the failure to find it. -/
def require (v : Value) (attributes : List (String × Value)) (name : String) :
    Except Failure Value :=
  match attributes.lookup name with
  | some value => .ok value
  | none => .error (.noAttribute v.typeName name)

/-- The entries of something that is used as a table by asking it for the operation `name`. -/
def tableEntries (name : String) (table : Value) : Except Failure (List (Value × Value)) :=
  match table.content with
  | .mapping entries => .ok entries
  | table => .error (.noAttribute table.typeName name)

/-- The failure to find in what stands for a field whether the field is described. -/
def noField (field : Value) : Failure := .noAttribute field.typeName "repr"

/-- Refuses a table of computed fields that has any. -/
def checkComputed (table : Value) : Except Failure Unit := do
  match ← tableEntries "items" table with
  | [] => return ()
  | (_, field) :: _ => throw (noField field)

/-- Does the description of a message show an attribute? It shows the fields of the class,
unless the message has a table of its own; then everything in it would have to be a field. -/
def isShown (m : Message Value) (attributes : List (String × Value)) (name : String) :
    Except Failure Bool := do
  match attributes.lookup fieldTable with
  | none => return name ∈ m.fields.map Prod.fst
  | some table =>
      match Entries.get? name (← tableEntries "get" table) with
      | some field => if field.truthy then throw (noField field) else return false
      | none => return false

/-- The described attributes of a message, those that are shown. -/
def describeAttributes (m : Message Value) (attributes : List (String × Value)) :
    Except Failure (List (String × String)) := do
  let shown ← attributes.mapM fun (name, v) => do
    if ← isShown m attributes name then return some (name, ← v.describe) else return none
  return shown.filterMap id

/-- The described fields that a message has besides those of its class. -/
def describeExtra (extra : Value) : Except Failure (List (String × String)) :=
  if extra.isNone then .ok []
  else do
    (← tableEntries "items" extra).mapM fun (k, v) => do return (← k.display, ← v.describe)

/-- The description of a message with the given attributes and extra fields. -/
def describeMessageWith (m : Message Value) (attributes : List (String × Value))
    (extra : Value) : Except Failure String := do
  if let some describer := describers.findSome? fun name => attributes.lookup name then
    throw (.notCallable describer.typeName)
  if let some table := attributes.lookup computedTable then checkComputed table
  let own ← describeAttributes m attributes
  let more ← describeExtra extra
  return Describe.fields m.cls.name (own ++ more)

/-- The description of the spelling of a member, which has to be a text. -/
def describeSpelling (v : Value) : Except Failure String :=
  match v.asText? with
  | some s => .ok (Text.quote s)
  | none => .error (.textRequired v.typeName)

/-- The description of an object that can be changed, with the given attributes. -/
def describeWith (v : Value) (attributes : List (String × Value)) : Except Failure String :=
  let part := require v attributes
  match v.content with
  | .comparison .. => do
      let property ← (← part "property").describe
      let op ← describeOperator [] (← part "op")
      let operand ← (← part "value").describe
      return Describe.comparison property op operand
  | .combination .. => do
      let parts ← describeItems [] (← (← part "conditions").items)
      let op ← describeOperator [] (← part "op")
      return Describe.combination op parts
  | .recorder .. => do return Describe.call v.typeName (← (← part "name").describe)
  | .scoped .. => do return Describe.call v.typeName (← (← part "prefix").describe)
  | .member m => do
      let name ← (← part memberName).display
      let spelling ← describeSpelling (← part memberSpelling)
      return m.enumeration.describe name spelling
  | .message m => describeMessageWith m attributes .none
  | v => v.describe

/-- The description of an object after all its attributes have been replaced. -/
def describeReplaced (v : Value) (entries : List (Value × Value)) : Except Failure String :=
  describeWith v (entries.filterMap fun (k, value) => k.asText?.map (·, value))

/-- The description of an object after one attribute has been set. -/
def describeSet (v : Value) (name : String) (value : Value) : Except Failure String :=
  match v.content with
  | .message m =>
      if name = extraFields then describeMessageWith m (attributes v) value
      else describeWith v (setText name value (attributes v))
  | _ => describeWith v (setText name value (attributes v))

/-- What comes of setting an attribute of an object that has attributes of its own. -/
def set (v : Value) (name : String) (value : Value) : Except Failure (Except Failure String) :=
  if name = classAttribute then .error (.classExpected value.typeName)
  else if name = referencesAttribute then .error (.computedAttribute (sharedClass v) name)
  else if name = allAttributes then
    match value.content with
    | .mapping entries => .ok (describeReplaced v entries)
    | _ => .error (.attributesExpected value.typeName)
  else .ok (describeSet v name value)

/-- Is a name one that the field of a message could have? -/
def isFieldName (name : String) : Bool := name.toList.head? != some '_'

end Assign

/-- The description of a value after an assignment to one of its attributes. -/
def Value.assign (v : Value) (name : String) (value : Value) :
    Except Failure (Except Failure String) :=
  match v.content with
  | .message m =>
      if Assign.isFieldName name then .error (.invalid m.cls [⟨[.key name], .frozen⟩])
      else if name ∈ Assign.messageProperties then .error (.noSetter m.cls.name name)
      else Assign.set v name value
  | .key .. | .order .. | .group _ => .error (.frozenField name)
  | .config .. =>
      if name = "default_namespace" ∨ name = "strict" then .error (.frozenField name)
      else .error .noSuchSlot
  | .member _ =>
      if name = "name" ∨ name = "value" then .error (.fixedMember name)
      else Assign.set v name value
  | .comparison .. | .combination .. | .query .. | .unseen => Assign.set v name value
  | .recorder .. | .answering .. | .scoped .. | .giving .. => Assign.set v name value
  | plain =>
      if name = Assign.classAttribute then .error (.classExpected value.typeName)
      else .error (plain.refuseAttribute name)

/-- The fields of a message are never changed. -/
theorem Value.assign_message (m : Message Value) {name : String}
    (h : Assign.isFieldName name = true) (value : Value) :
    (Value.message m).assign name value =
      .error (.invalid m.cls [⟨[.key name], .frozen⟩]) := by
  simp [assign, Value.content, h]

end EntityQuery
