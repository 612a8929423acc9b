import EntityQuery.Query
import EntityQuery.Signature

/-!
# Calls by name

The calls that change a builder, by name and with loose arguments. `Method.call` is the call
that the arguments make up, or what is wrong with them; the effect of the call is then that of
`Query.apply`.

Most methods have one parameter. `properties` takes any number of arguments, all of them by
position.
-/

namespace EntityQuery

/-- The methods that change a builder. -/
inductive Method where
  | keysOnly
  | properties
  | kindOf
  | filterBy
  | orderBy
  | groupBy
  | fromCursor
  | limit
  | offset
  | clearOffset
  deriving DecidableEq, Repr

namespace Method

/-- All methods. -/
def all : List Method :=
  [keysOnly, properties, kindOf, filterBy, orderBy, groupBy, fromCursor, limit, offset,
    clearOffset]

/-- The name of a method. -/
def name : Method → String
  | keysOnly => "keys_only"
  | properties => "properties"
  | kindOf => "kind_of"
  | filterBy => "filter_by"
  | orderBy => "order_by"
  | groupBy => "group_by"
  | fromCursor => "from_cursor"
  | limit => "limit"
  | offset => "offset"
  | clearOffset => "clear_offset"

/-- The method with a name. -/
def ofName? (s : String) : Option Method := all.find? (·.name == s)

/-- A method is found by its own name. -/
@[simp] theorem ofName?_name (m : Method) : ofName? m.name = some m := by
  cases m <;> decide

/-- The parameter of a method that has one. -/
def parameter? : Method → Option String
  | kindOf => some "kind"
  | filterBy => some "filter"
  | orderBy => some "order"
  | groupBy => some "group"
  | fromCursor => some "cursor"
  | limit => some "limit"
  | offset => some "offset"
  | keysOnly | properties | clearOffset => none

/-- The signature of a method, apart from the arguments by position that `properties` takes. -/
def signature (m : Method) : Signature := ⟨"Query." ++ m.name, true, m.parameter?.toList, []⟩

/-- The call of a method whose one argument is given, or nothing where it has none. -/
def callWith (m : Method) (argument : Value) : Query.Call :=
  match m with
  | keysOnly => .keysOnly
  | properties => .properties [argument]
  | kindOf => .kindOf argument
  | filterBy => .filterBy argument
  | orderBy => .orderBy argument
  | groupBy => .groupBy argument
  | fromCursor => .fromCursor argument
  | limit => .limit argument
  | offset => .offset argument
  | clearOffset => .clearOffset

/-- The call that loose arguments make up. -/
def call (m : Method) (positional : List Value) (named : List (String × Value)) :
    Except Failure Query.Call :=
  match m with
  | properties => do
      let _ ← m.signature.bind [] named
      return .properties positional
  | m => do return m.callWith ((← m.signature.bind positional named).headD .none)

end Method

/-- The failure to call a method of a builder on something else. A message may have a field of
that name, which then is no operation. -/
def Value.refuseMethod (v : Value) (name : String) : Failure :=
  match v.content with
  | .message m =>
      match m.fields.lookup name with
      | some field => .notCallable field.typeName
      | Option.none => .noAttribute v.typeName name
  | _ => .noAttribute v.typeName name

/-! ## Compilation and configuration -/

/-- The signature of the compilation of a value, if it has one. -/
def Value.compileSignature? (v : Value) : Option Signature :=
  match v.content with
  | .comparison .. => some ⟨"PropertyCondition.compile", true, ["namespace"], []⟩
  | .combination .. => some ⟨"CompositeCondition.compile", true, ["namespace"], []⟩
  | .recorder .. => some ⟨"Stub.compile", true, ["namespace"], []⟩
  | .answering .. => some ⟨"Returns.compile", true, ["namespace"], []⟩
  | .order .. => some ⟨"Order.compile", true, [], []⟩
  | .group _ => some ⟨"Group.compile", true, [], []⟩
  | .query .. | .unseen => some ⟨"Query.compile", true, [], ["namespace"]⟩
  | _ => Option.none

/-- What a value answers when it is asked to compile with loose arguments. -/
def Value.callCompile (v : Value) (positional : List Value) (named : List (String × Value)) :
    Traced Value :=
  match v.compileSignature? with
  | Option.none => .fail (.noAttribute v.typeName "compile")
  | some signature => do
      match ← signature.bind positional named with
      | [] => .message <$> v.compileAlone
      | scope :: _ => v.compile scope

/-- The signature of configurations. -/
def Query.configSignature : Signature :=
  ⟨"QueryConfig.__init__", true, [], ["default_namespace", "strict"]⟩

/-- A configuration from named arguments; it has no namespace and is not strict unless it says
so. -/
def Query.configOf (named : List (String × Value)) : Except Failure Value := do
  let _ ← configSignature.bind [] named
  return .config ((named.lookup "default_namespace").getD .none)
    ((named.lookup "strict").getD (.bool false))

/-- The signature of the compilation of a builder to a request. -/
def Query.requestSignature : Signature :=
  ⟨"Query.to_request", true, [], ["namespace", "project_id"]⟩

end EntityQuery
