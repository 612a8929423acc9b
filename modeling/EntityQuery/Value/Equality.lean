import EntityQuery.Value
import EntityQuery.Failure

/-!
# Equality

When two values are the same to a caller, and which values can be keys of a mapping.

* Numbers are equal by value, whatever their type, and a truth value is one or zero. A text
  equals a member with that spelling.
* Lists, tuples and mappings are equal by their items or entries, keys and the other records
  by their fields, messages by class and fields. Conditions, builders and the caller's own
  objects equal only themselves.
* Inside a container, and only there, a not-a-number equals itself: `alike` is the relation
  on items, `equal` the one asked for from outside. What is at one place of a workspace is
  alike to itself without a look at its parts, and two places that are met again while they
  are compared are alike if nothing else tells them apart.
* Lists and mappings cannot be keys, nor can what holds one in a field; `unhashable?` finds
  the first offender.
-/

namespace EntityQuery

namespace Value

/-- Is the value a number equal to the integer? -/
def isInt (n : Int) : Value → Bool
  | .bool b => n == (if b then 1 else 0)
  | .int m => n == m
  | .float x => x.equalInt n
  | .object _ look => (look ()).isInt n
  | _ => false

/-- Is the value a number equal to, or the same reading as, the floating-point number? -/
def isFloat (x : Binary64) : Value → Bool
  | .bool b => x.equalInt (if b then 1 else 0)
  | .int n => x.equalInt n
  | .float y => x.alike y
  | .object _ look => (look ()).isFloat x
  | _ => false

/-- Is the value at the place with a number? -/
def isAt (number : Nat) : Value → Bool
  | .object n _ => n == number
  | _ => false

end Value

mutual

/-- Are two values the same as items of a container, inside of some pairs of places that are
compared already? -/
def Value.alikeIn (met : List (Nat × Nat)) : Value → Value → Bool
  | .none, w => w.isNone
  | .bool b, w => w.isInt (if b then 1 else 0)
  | .int n, w => w.isInt n
  | .float x, w => w.isFloat x
  | .text s, w => w.asText? == some s
  | .bytes b, w => match w.content with | .bytes c => b == c | _ => false
  | .list items, w =>
      match w.content with | .list others => alikeItems met items others | _ => false
  | .tuple items, w =>
      match w.content with | .tuple others => alikeItems met items others | _ => false
  | .mapping entries, w =>
      match w.content with
      | .mapping others => entries.length == others.length && alikeEntries met entries others
      | _ => false
  | .object number look, w =>
      match w with
      | .object number' _ =>
          number == number' || met.contains (number, number') ||
            (look ()).alikeIn ((number, number') :: met) w
      | w => (look ()).alikeIn met w
  | .unseen, _ => false
  | .member m, w => w.asText? == some m.spelling
  | .key path keyNamespace, w =>
      match w.content with
      | .key path' keyNamespace' =>
          path.alikeIn met path' && keyNamespace.alikeIn met keyNamespace'
      | _ => false
  | .comparison mark .., w =>
      match w.content with | .comparison mark' .. => mark == mark' | _ => false
  | .combination mark .., w =>
      match w.content with | .combination mark' .. => mark == mark' | _ => false
  | .order property direction, w =>
      match w.content with
      | .order property' direction' =>
          property.alikeIn met property' && direction.alikeIn met direction'
      | _ => false
  | .group property, w =>
      match w.content with | .group property' => property.alikeIn met property' | _ => false
  | .config defaultNamespace strict, w =>
      match w.content with
      | .config defaultNamespace' strict' =>
          defaultNamespace.alikeIn met defaultNamespace' && strict.alikeIn met strict'
      | _ => false
  | .message m, w => match w.content with | .message m' => alikeMessage met m m' | _ => false
  | .query id _, w => match w.content with | .query id' _ => id == id' | _ => false
  | .recorder mark _, w =>
      match w.content with | .recorder mark' _ => mark == mark' | _ => false
  | .answering mark _, w =>
      match w.content with | .answering mark' _ => mark == mark' | _ => false
  | .scoped mark _, w => match w.content with | .scoped mark' _ => mark == mark' | _ => false
  | .giving mark _, w => match w.content with | .giving mark' _ => mark == mark' | _ => false
termination_by structural v => v

/-- Are two sequences alike item by item? -/
def alikeItems (met : List (Nat × Nat)) : List Value → List Value → Bool
  | [], others => others.isEmpty
  | v :: rest, others =>
      match others with
      | [] => false
      | w :: others => v.alikeIn met w && alikeItems met rest others
termination_by structural v => v

/-- Does every entry have an entry with a like key and value among the others? -/
def alikeEntries (met : List (Nat × Nat)) :
    List (Value × Value) → List (Value × Value) → Bool
  | [], _ => true
  | (k, v) :: rest, others =>
      (match others.find? fun other => k.alikeIn met other.1 with
        | some other => v.alikeIn met other.2
        | none => false) &&
      alikeEntries met rest others
termination_by structural v => v

/-- Does every entry of a mapping from texts have a like entry among the others? -/
def alikeMapping (met : List (Nat × Nat)) :
    List (String × Value) → List (String × Value) → Bool
  | [], _ => true
  | (k, v) :: rest, others =>
      (match others.find? fun other => k == other.1 with
        | some other => v.alikeIn met other.2
        | none => false) &&
      alikeMapping met rest others
termination_by structural v => v

/-- Are two property filters alike? -/
def alikePropertyFilter (met : List (Nat × Nat)) :
    PropertyFilter Value → PropertyFilter Value → Bool
  | ⟨property, op, value, _⟩, ⟨property', op', value', _⟩ =>
      property == property' && op == op' && value.length == value'.length &&
        alikeMapping met value value'
termination_by structural v => v

/-- Are two filters alike? -/
def alikeFilter (met : List (Nat × Nat)) : Filter Value → Filter Value → Bool
  | .property filter, f' =>
      match f' with | .property filter' => alikePropertyFilter met filter filter' | _ => false
  | .composite op filters _, f' =>
      match f' with
      | .composite op' filters' _ => op == op' && alikeFilters met filters filters'
      | _ => false
termination_by structural v => v

/-- Are two sequences of filters alike? -/
def alikeFilters (met : List (Nat × Nat)) :
    List (Filter Value) → List (Filter Value) → Bool
  | [], others => others.isEmpty
  | f :: rest, others =>
      match others with
      | [] => false
      | f' :: others => alikeFilter met f f' && alikeFilters met rest others
termination_by structural v => v

/-- Are two optional filters alike? -/
def alikeFilter? (met : List (Nat × Nat)) :
    Option (Filter Value) → Option (Filter Value) → Bool
  | none, other => other.isNone
  | some f, other => match other with | some f' => alikeFilter met f f' | none => false
termination_by structural v => v

/-- Are two compiled queries alike? -/
def alikeQueryMessage (met : List (Nat × Nat)) : QueryMessage Value → QueryMessage Value → Bool
  | ⟨kinds, projections, filter, orders, distinctOn, startCursor, limit, offset⟩, m =>
      kinds == m.kinds && projections == m.projections && alikeFilter? met filter m.filter &&
        orders == m.orders && distinctOn == m.distinctOn && startCursor == m.startCursor &&
        limit == m.limit && offset == m.offset
termination_by structural v => v

/-- Are two messages of one class and alike? -/
def alikeMessage (met : List (Nat × Nat)) : Message Value → Message Value → Bool
  | .bare, w => match w with | .bare => true | _ => false
  | .kindExpression m, w => match w with | .kindExpression m' => m == m' | _ => false
  | .propertyReference m, w => match w with | .propertyReference m' => m == m' | _ => false
  | .projection m, w => match w with | .projection m' => m == m' | _ => false
  | .propertyOrder m, w => match w with | .propertyOrder m' => m == m' | _ => false
  | .propertyFilter m, w =>
      match w with | .propertyFilter m' => alikePropertyFilter met m m' | _ => false
  | .compositeFilter ⟨op, filters, _⟩, w =>
      match w with
      | .compositeFilter m' => op == m'.op && alikeFilters met filters m'.filters
      | _ => false
  | .filter m, w => match w with | .filter m' => alikeFilter met m m' | _ => false
  | .query m, w => match w with | .query m' => alikeQueryMessage met m m' | _ => false
  | .partitionId m, w => match w with | .partitionId m' => m == m' | _ => false
  | .request ⟨partition, query⟩, w =>
      match w with
      | .request m' => partition == m'.partitionId && alikeQueryMessage met query m'.query
      | _ => false
termination_by structural v => v

end

/-- Are two values the same as items of a container? -/
def Value.alike (v w : Value) : Bool := v.alikeIn [] w

/-- Are two values equal? A not-a-number equals nothing. -/
def Value.equal (v w : Value) : Bool :=
  match v.content, w.content with
  | .float x, .float y => x.equal y
  | _, _ => v.alike w

/-- Is a text empty, or a single character of one byte? -/
def isSmallText (s : String) : Bool :=
  s.toList.length ≤ 1 && s.toList.all fun c => c.toNat < 256

/-- Are two values the same by what they are? Of constants and other small values there is
only one each, and conditions, builders and the caller's own objects have their marks. -/
def Value.isSame : Value → Value → Bool
  | .none, .none => true
  | .bool b, .bool c => b == c
  | .member m, .member m' => m == m'
  | .int n, .int m => n == m && -5 ≤ n && n ≤ 256
  | .text s, .text t => s == t && isSmallText s
  | .bytes b, .bytes c => b == c && b.length ≤ 1
  | .tuple [], .tuple [] => true
  | .query id _, .query id' _ => id == id'
  | .comparison mark .., .comparison mark' .. => mark == mark'
  | .combination mark .., .combination mark' .. => mark == mark'
  | .recorder mark _, .recorder mark' _ => mark == mark'
  | .answering mark _, .answering mark' _ => mark == mark'
  | .scoped mark _, .scoped mark' _ => mark == mark'
  | .giving mark _, .giving mark' _ => mark == mark'
  | _, _ => false

/-- Are two values one and the same? What has a place is told apart by it, unless there is
only one of its kind anyway. -/
def Value.identical (v w : Value) : Bool :=
  (match v with | .object number _ => w.isAt number | _ => false) ||
    v.content.isSame w.content

/-! ## Keys of mappings -/

mutual

/-- The type of the first part of a filter that cannot be a key, if there is one. The mapping
of a property filter is such a part. -/
def Filter.unhashable? {α : Type} : Filter α → Option String
  | .property _ => some "dict"
  | .composite _ filters _ => unhashableFilters? filters

/-- The type of the first part of some filters that cannot be a key, if there is one. -/
def unhashableFilters? {α : Type} : List (Filter α) → Option String
  | [] => none
  | f :: rest => f.unhashable?.or (unhashableFilters? rest)

end

/-- The type of the first part of a message that cannot be a key, if there is one. -/
def Message.unhashable? {α : Type} : Message α → Option String
  | .propertyFilter _ => some "dict"
  | .compositeFilter m => unhashableFilters? m.filters
  | .filter m => m.unhashable?
  | .query m => m.filter.bind Filter.unhashable?
  | .request m => m.query.filter.bind Filter.unhashable?
  | _ => none

mutual

/-- The type of the first part of a value that keeps it from being a key, if there is one. -/
def Value.unhashable? : Value → Option String
  | .list _ => some "list"
  | .mapping _ => some "dict"
  | .object _ look => (look ()).unhashable?
  | .tuple items => unhashableItems? items
  | .key path keyNamespace => path.unhashable?.or keyNamespace.unhashable?
  | .order property direction => property.unhashable?.or direction.unhashable?
  | .group property => property.unhashable?
  | .config defaultNamespace strict => defaultNamespace.unhashable?.or strict.unhashable?
  | .message m => m.unhashable?
  | _ => Option.none

/-- The type of the first part of some values that cannot be a key, if there is one. -/
def unhashableItems? : List Value → Option String
  | [] => Option.none
  | v :: rest => v.unhashable?.or (unhashableItems? rest)

end

/-- Refuses a value that cannot be a key. -/
def Value.checkHashable (v : Value) : Except Failure Unit :=
  match v.unhashable? with
  | some typeName => .error (.unhashable typeName)
  | Option.none => .ok ()

/-- Not even a not-a-number equals a not-a-number, but every one is alike to itself. -/
theorem alike_nan_self (mark : Nat) :
    (Value.float (.nan mark)).alike (.float (.nan mark)) = true ∧
      (Value.float (.nan mark)).equal (.float (.nan mark)) = false := by
  simp [Value.alike, Value.alikeIn, Value.isFloat, Value.equal, Value.content]

end EntityQuery
