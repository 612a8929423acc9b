/-!
# Operators and directions

The closed vocabularies of the wire format: how a property is compared, how filters are
combined, and how results are sorted. A member is known by its spelling, which is the same in
messages, in descriptions and in the texts callers give.

* `Enumeration` names the three vocabularies and lists their members in declaration order.
* `Member` is a member of any of them; `Enumeration.find?` looks one up by its spelling, and
  `find?_spelling` says that every member is found by its own.
-/

namespace EntityQuery

/-- How a property filter compares a property with a value. -/
inductive PropertyOperator where
  | lessThan
  | lessThanOrEqual
  | greaterThan
  | greaterThanOrEqual
  | equal
  | notEqual
  | oneOf
  | notOneOf
  /-- The entity is a descendant of a key. -/
  | hasAncestor
  deriving DecidableEq, Repr

/-- How a composite filter combines its parts. -/
inductive CompositeOperator where
  | and
  | or
  deriving DecidableEq, Repr

/-- How results are sorted on a property. -/
inductive Direction where
  | ascending
  | descending
  deriving DecidableEq, Repr

namespace PropertyOperator

/-- The spelling of an operator. -/
def spelling : PropertyOperator → String
  | lessThan => "LESS_THAN"
  | lessThanOrEqual => "LESS_THAN_OR_EQUAL"
  | greaterThan => "GREATER_THAN"
  | greaterThanOrEqual => "GREATER_THAN_OR_EQUAL"
  | equal => "EQUAL"
  | notEqual => "NOT_EQUAL"
  | oneOf => "IN"
  | notOneOf => "NOT_IN"
  | hasAncestor => "HAS_ANCESTOR"

/-- All operators, in declaration order. -/
def all : List PropertyOperator :=
  [lessThan, lessThanOrEqual, greaterThan, greaterThanOrEqual, equal, notEqual, oneOf, notOneOf,
    hasAncestor]

/-- The operator with a spelling. -/
def ofSpelling? (s : String) : Option PropertyOperator := all.find? (·.spelling == s)

/-- An operator is found by its own spelling. -/
@[simp] theorem ofSpelling?_spelling (o : PropertyOperator) : ofSpelling? o.spelling = some o := by
  cases o <;> decide

/-- Only an operator's own spelling finds it. -/
theorem spelling_of_ofSpelling? {s : String} {o : PropertyOperator}
    (h : ofSpelling? s = some o) : o.spelling = s := by
  simpa using List.find?_some h

end PropertyOperator

namespace CompositeOperator

/-- The spelling of an operator. -/
def spelling : CompositeOperator → String
  | and => "AND"
  | or => "OR"

/-- All operators, in declaration order. -/
def all : List CompositeOperator := [and, or]

/-- The operator with a spelling. -/
def ofSpelling? (s : String) : Option CompositeOperator := all.find? (·.spelling == s)

/-- An operator is found by its own spelling. -/
@[simp] theorem ofSpelling?_spelling (o : CompositeOperator) :
    ofSpelling? o.spelling = some o := by
  cases o <;> decide

/-- Only an operator's own spelling finds it. -/
theorem spelling_of_ofSpelling? {s : String} {o : CompositeOperator}
    (h : ofSpelling? s = some o) : o.spelling = s := by
  simpa using List.find?_some h

end CompositeOperator

namespace Direction

/-- The spelling of a direction. -/
def spelling : Direction → String
  | ascending => "ASCENDING"
  | descending => "DESCENDING"

/-- Both directions, in declaration order. -/
def all : List Direction := [ascending, descending]

/-- The direction with a spelling. -/
def ofSpelling? (s : String) : Option Direction := all.find? (·.spelling == s)

/-- A direction is found by its own spelling. -/
@[simp] theorem ofSpelling?_spelling (d : Direction) : ofSpelling? d.spelling = some d := by
  cases d <;> decide

/-- Only a direction's own spelling finds it. -/
theorem spelling_of_ofSpelling? {s : String} {d : Direction}
    (h : ofSpelling? s = some d) : d.spelling = s := by
  simpa using List.find?_some h

end Direction

/-! ## Members of any vocabulary -/

/-- The vocabularies. -/
inductive Enumeration where
  | propertyOperator
  | compositeOperator
  | direction
  deriving DecidableEq, Repr

/-- A member of one of the vocabularies. -/
inductive Member where
  | property (operator : PropertyOperator)
  | composite (operator : CompositeOperator)
  | direction (direction : Direction)
  deriving DecidableEq, Repr

/-- The name of a vocabulary. -/
def Enumeration.name : Enumeration → String
  | propertyOperator => "PropertyOperator"
  | compositeOperator => "CompositeOperator"
  | direction => "Direction"

/-- The vocabulary with a name. -/
def Enumeration.ofName? (s : String) : Option Enumeration :=
  [propertyOperator, compositeOperator, direction].find? (·.name == s)

/-- The members of a vocabulary, in declaration order. -/
def Enumeration.members : Enumeration → List Member
  | propertyOperator => PropertyOperator.all.map .property
  | compositeOperator => CompositeOperator.all.map .composite
  | direction => Direction.all.map .direction

/-- The vocabulary a member belongs to. -/
def Member.enumeration : Member → Enumeration
  | property _ => .propertyOperator
  | composite _ => .compositeOperator
  | direction _ => .direction

/-- The spelling of a member. -/
def Member.spelling : Member → String
  | property o => o.spelling
  | composite o => o.spelling
  | direction d => d.spelling

/-- The member of a vocabulary with a spelling. -/
def Enumeration.find? : Enumeration → String → Option Member
  | propertyOperator, s => (PropertyOperator.ofSpelling? s).map .property
  | compositeOperator, s => (CompositeOperator.ofSpelling? s).map .composite
  | direction, s => (Direction.ofSpelling? s).map .direction

/-- Every member is found in its vocabulary by its own spelling. -/
@[simp] theorem Enumeration.find?_spelling (m : Member) :
    m.enumeration.find? m.spelling = some m := by
  cases m <;> simp [Enumeration.find?, Member.enumeration, Member.spelling]

/-- How a member of a vocabulary with a name and a described spelling is described. -/
def Enumeration.describe (enumeration : Enumeration) (name spelling : String) : String :=
  "<" ++ enumeration.name ++ "." ++ name ++ ": " ++ spelling ++ ">"

/-- How a member is described: its vocabulary, its name and its spelling, the two of which are
the same. -/
def Member.text (m : Member) : String :=
  m.enumeration.describe m.spelling ("'" ++ m.spelling ++ "'")

end EntityQuery
