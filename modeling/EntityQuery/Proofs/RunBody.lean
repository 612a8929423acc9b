import EntityQuery.Proofs.Run
import EntityQuery.Proofs.UnitBody

/-!
# What a builder sends

The body of a compiled builder can be read off its calls. Each call says what it contributes to
which field; a run contributes what its calls do, in call order, and where the last call wins, what
the last one does.

* `Query.Call.IsTyped` is a call with arguments of the types that it is documented for, which does
  not fail (`Query.apply_typed`).
* `Query.runBody` is the body that the calls amount to for a namespace.
* The fields of the state after a run are read one by one, `Query.kinds_typed` to
  `Query.offset_typed`, and `Query.compile_runBody` puts them together. Two things can still go
  wrong: a key in a filter cannot be written out (`areWritableUnits`), as an identifier in it has
  more than `Decimal.digitLimit` digits, or the body would be too deep.
-/

namespace EntityQuery

/-- The names that an argument of a projection call stands for. -/
def Value.names (v : Value) : List String :=
  match v.content with
  | .list items => items.map textOf
  | _ => [v.textOf]

namespace Query

/-! ## Calls -/

/-- A call with arguments of the types that it is documented for. In a strict builder `limit` and
`offset` are not to be negative either, as `checkPage` would refuse them. -/
def Call.IsTyped (strict : Bool) : Call → Prop
  | .keysOnly | .clearOffset => True
  | .properties names => ∀ v ∈ names, v.asText?.isSome = true ∨
      ∃ items, v.content = .list items ∧ ∀ item ∈ items, item.asText?.isSome = true
  | .kindOf kind => kind.asText?.isSome = true
  | .filterBy unit => unit.IsTree IsTypedComparison IsTypedOperator
  | .orderBy order => ∃ property direction d, order.content = .order property direction ∧
      property.asText?.isSome = true ∧ direction.content = .member (.direction d)
  | .groupBy group => ∃ property, group.content = .group property ∧
      property.asText?.isSome = true
  | .fromCursor cursor => ∃ b, cursor.content = .bytes b
  | .limit v | .offset v => ∃ n, v.content = .int n ∧ (strict = true → 0 ≤ n)

/-- The names that a call projects on. -/
def Call.projectedNames : Call → List String
  | .keysOnly => ["__key__"]
  | .properties names => names.flatMap Value.names
  | _ => []

/-- The body of the order that a call adds. -/
def Call.orderBodies : Call → List Value
  | .orderBy order =>
      match order.content with
      | .order property direction =>
          [.ofTexts [("property", nameBody property.textOf), ("direction", .text direction.textOf)]]
      | _ => []
  | _ => []

/-- The body of the group that a call adds. -/
def Call.groupBodies : Call → List Value
  | .groupBy group =>
      match group.content with
      | .group property => [nameBody property.textOf]
      | _ => []
  | _ => []

/-- The cursor that a call sets, as bytes. -/
def Call.cursorBytes? : Call → Option (List UInt8)
  | .fromCursor cursor =>
      match cursor.content with
      | .bytes b => some b
      | _ => none
  | _ => none

/-- The limit that a call sets, as a number. -/
def Call.limitNumber? : Call → Option Int
  | .limit v =>
      match v.content with
      | .int n => some n
      | _ => none
  | _ => none

/-- The offset that a call sets, as a number. -/
def Call.offsetNumber? : Call → Option Int
  | .offset v =>
      match v.content with
      | .int n => some n
      | _ => none
  | .clearOffset => some 0
  | _ => none

/-- The one filter of a query from the bodies of its units: none for none, a single one as it is,
and several under `and`, as in `Filter.compose`. -/
def filterBody? : List Value → Option Value
  | [] => none
  | [body] => some body
  | bodies => some (.ofTexts [("compositeFilter",
      .ofTexts [("op", .text "AND"), ("filters", .list bodies)])])

/-- An entry if there is a value for it, else none. -/
def entry? (name : String) : Option Value → List (String × Value)
  | some v => [(name, v)]
  | none => []

/-- The body that a run of calls amounts to, read off the calls alone: fields that accumulate by
`flatMap`, the others by `lastOf`, and `unitBody` for the units. -/
def runBody (scope : Option String) (calls : List Call) : Value :=
  .ofTexts (
    [("kind", .list ((calls.flatMap Call.kinds).map fun v => nameBody v.textOf)),
      ("projection", .list ((calls.flatMap Call.projectedNames).map fun name =>
        .ofTexts [("property", nameBody name)]))] ++
    entry? "filter" (filterBody? (unitBodies scope (calls.flatMap Call.units))) ++
    [("order", .list (calls.flatMap Call.orderBodies)),
      ("distinctOn", .list (calls.flatMap Call.groupBodies))] ++
    entry? "startCursor" ((lastOf Call.cursorBytes? calls).map fun b =>
      .text (Text.Base64.encode b)) ++
    entry? "limit" ((lastOf Call.limitNumber? calls).map .int) ++
    [("offset", .int ((lastOf Call.offsetNumber? calls).getD 0))])

/-! ## Typed calls -/

/-- `checkPage` lets a typed page setting pass. -/
theorem checkPage_typed {config dflt strict v : Value} {n : Int} (field : PageField)
    (configured : config.content = .config dflt strict) (isInt : v.content = .int n)
    (checked : strict.truthy = true → 0 ≤ n) : checkPage config field v = .ok () := by
  have isStrict : isStrict config = .ok strict.truthy := by
    simp only [Query.isStrict, configured]
  have isNegative : isNegative v = .ok (decide (n < 0)) := by
    simp only [Query.isNegative, isInt]
  unfold checkPage
  rw [isStrict, isNegative]
  cases truthy : strict.truthy with
  | false => rfl
  | true =>
      have notNegative : decide (n < 0) = false := by
        have := checked truthy
        exact decide_eq_false (by omega)
      rw [notNegative]
      rfl

theorem compileAlone_order {order property direction : Value} {d : Direction}
    (seen : order.content = .order property direction) (isText : property.asText?.isSome = true)
    (isDirection : direction.content = .member (.direction d)) :
    order.compileAlone.result = .ok (.propertyOrder ⟨⟨property.textOf⟩, d⟩) := by
  have read : checkDirection direction = .ok d :=
    checkMember_of_spelling (Value.spelling?_of_member isDirection)
      (Direction.ofSpelling?_spelling d)
  have made : PropertyOrder.make ⟨property.textOf⟩ direction = .ok ⟨⟨property.textOf⟩, d⟩ := by
    simp [PropertyOrder.make, PropertyOrder.ofEntries, Field.property, Field.direction,
      Spelling.same, Spelling.required, Spelling.defaulted, List.lookup_cons,
      PropertyReference.check, Value.content, read]
    rfl
  simp only [Value.compileAlone, seen, Order.compile, PropertyReference.make_of_isSome isText,
    bind, Except.bind, made]
  rfl

theorem compileAlone_group {group property : Value} (seen : group.content = .group property)
    (isText : property.asText?.isSome = true) :
    group.compileAlone.result = .ok (.propertyReference ⟨property.textOf⟩) := by
  simp only [Value.compileAlone, seen, Group.compile, PropertyReference.make_of_isSome isText]
  rfl

/-- `project` records typed names all, and one by one; the list of a single call is flattened. -/
theorem project_typed {names : List Value}
    (typed : ∀ v ∈ names, v.asText?.isSome = true ∨
      ∃ items, v.content = .list items ∧ ∀ item ∈ items, item.asText?.isSome = true) :
    ∃ recorded, project [] names = (recorded, .ok ()) ∧
      (∀ v ∈ recorded, v.asText?.isSome = true) ∧
      recorded.map Value.textOf = names.flatMap Value.names := by
  induction names with
  | nil => exact ⟨[], rfl, by simp, rfl⟩
  | cons v rest ih =>
      simp only [List.forall_mem_cons] at typed
      obtain ⟨recorded, projected, texts, same⟩ := ih typed.2
      have first : ∃ l, namesOf v = .ok l ∧ (∀ w ∈ l, w.asText?.isSome = true) ∧
          l.map Value.textOf = v.names := by
        rcases typed.1 with isText | ⟨items, isList, each⟩
        · refine ⟨[v], by rw [namesOf, if_pos isText], by simpa using isText, ?_⟩
          rcases Value.content_of_isSome isText with ⟨s, seen⟩ | ⟨m, seen⟩ <;>
            simp [Value.names, seen]
        · have noText : v.asText? = none := by
            rw [← Value.asText?_content, isList]
            rfl
          refine ⟨items, ?_, each, by simp only [Value.names, isList]⟩
          simp [namesOf, noText, Value.items, Value.items?, isList]
      obtain ⟨l, named, lTexts, lNames⟩ := first
      refine ⟨l ++ recorded, ?_, List.forall_mem_append.mpr ⟨lTexts, texts⟩, ?_⟩
      · rw [project, named]
        dsimp only
        rw [project_eq, projected]
        rfl
      · rw [List.map_append, lNames, same, List.flatMap_cons]

/-- No typed call fails. This is by cases on the call, as each is checked in a way of its own. -/
theorem apply_typed {q : Query} {dflt strict : Value} {call : Call}
    (configured : q.config.content = .config dflt strict) (typed : call.IsTyped strict.truthy) :
    (q.apply call).outcome.result = .ok () := by
  cases call with
  | properties names =>
      obtain ⟨recorded, projected, -, -⟩ := project_typed typed
      rw [apply, project_eq, projected]
      rfl
  | orderBy order =>
      obtain ⟨property, direction, d, seen, isText, isDirection⟩ := typed
      rw [apply, compileAlone_order seen isText isDirection]
  | groupBy group =>
      obtain ⟨property, seen, isText⟩ := typed
      rw [apply, compileAlone_group seen isText]
  | limit v =>
      obtain ⟨n, isInt, checked⟩ := typed
      rw [apply, checkPage_typed .limit configured isInt checked]
      rfl
  | offset v =>
      obtain ⟨n, isInt, checked⟩ := typed
      rw [apply, checkPage_typed .offset configured isInt checked]
      rfl
  | _ => rfl

/-! ## Fields after a run -/

/-- What accumulates, as the written forms of items that have the given bodies. Orders and groups
differ in their items only, so both are read off here. -/
theorem flatMap_written {α β γ : Type} {calls : List Call} {added : Call → List β}
    {bodies : Call → List γ} {write : α → β} {body : α → γ}
    (each : ∀ c ∈ calls, ∃ l : List α, added c = l.map write ∧ l.map body = bodies c) :
    ∃ l : List α, calls.flatMap added = l.map write ∧ l.map body = calls.flatMap bodies := by
  induction calls with
  | nil => exact ⟨[], rfl, rfl⟩
  | cons c rest ih =>
      simp only [List.forall_mem_cons] at each
      obtain ⟨⟨l, adds, same⟩, others⟩ := each
      obtain ⟨l', adds', same'⟩ := ih others
      refine ⟨l ++ l', ?_, ?_⟩
      · rw [List.flatMap_cons, adds, adds', List.map_append]
      · rw [List.flatMap_cons, ← same, ← same', List.map_append]

/-- `lastOf` commutes with reading: what the last call puts into a field is read as what it is meant
to be. It carries the cursor, the limit and the offset from one call to a run. -/
theorem lastOf_read {β γ δ : Type} {calls : List Call} {put? : Call → Option β}
    {meant? : Call → Option γ} {read : β → δ} {result : γ → δ}
    (each : ∀ c ∈ calls, (put? c).map read = (meant? c).map result) :
    (lastOf put? calls).map read = (lastOf meant? calls).map result := by
  induction calls with
  | nil => rfl
  | cons c rest ih =>
      simp only [List.forall_mem_cons] at each
      have later := ih each.2
      have first := each.1
      rw [lastOf_cons, lastOf_cons]
      cases h : lastOf put? rest <;> cases h' : lastOf meant? rest <;>
        simp_all

theorem kinds_typed {strict : Bool} {calls : List Call} (typed : ∀ c ∈ calls, c.IsTyped strict) :
    ∀ v ∈ calls.flatMap Call.kinds, v.asText?.isSome = true := by
  intro v hv
  obtain ⟨c, hc, among⟩ := List.mem_flatMap.mp hv
  have isTyped := typed c hc
  cases c with
  | kindOf kind =>
      obtain rfl := List.mem_singleton.mp among
      exact isTyped
  | _ => cases among

theorem projections_typed {strict : Bool} {calls : List Call}
    (typed : ∀ c ∈ calls, c.IsTyped strict) :
    (∀ v ∈ calls.flatMap Call.projections, v.asText?.isSome = true) ∧
      (calls.flatMap Call.projections).map Value.textOf = calls.flatMap Call.projectedNames := by
  have each : ∀ c ∈ calls, (∀ v ∈ c.projections, v.asText?.isSome = true) ∧
      c.projections.map Value.textOf = c.projectedNames := by
    intro c hc
    have isTyped := typed c hc
    cases c with
    | keysOnly => exact ⟨by simp [Call.projections, Value.asText?], rfl⟩
    | properties names =>
        obtain ⟨recorded, projected, texts, same⟩ := project_typed isTyped
        rw [Call.projections, projected]
        exact ⟨texts, same⟩
    | _ => exact ⟨by simp [Call.projections], rfl⟩
  constructor
  · intro v hv
    obtain ⟨c, hc, among⟩ := List.mem_flatMap.mp hv
    exact (each c hc).1 v among
  · have written : ∀ c ∈ calls, ∃ l : List Value, c.projections = l.map id ∧
        l.map Value.textOf = c.projectedNames :=
      fun c hc => ⟨c.projections, (List.map_id _).symm, (each c hc).2⟩
    obtain ⟨l, added, same⟩ := flatMap_written written
    rw [added, ← same, List.map_id]

theorem units_typed {strict : Bool} {calls : List Call} (typed : ∀ c ∈ calls, c.IsTyped strict) :
    ∀ u ∈ calls.flatMap Call.units, u.IsTree IsTypedComparison IsTypedOperator := by
  intro u hu
  obtain ⟨c, hc, among⟩ := List.mem_flatMap.mp hu
  have isTyped := typed c hc
  cases c with
  | filterBy unit =>
      obtain rfl := List.mem_singleton.mp among
      exact isTyped
  | _ => cases among

theorem orders_typed {strict : Bool} {calls : List Call} (typed : ∀ c ∈ calls, c.IsTyped strict) :
    ∃ orders : List PropertyOrder, calls.flatMap Call.orders = orders.map Message.propertyOrder ∧
      orders.map PropertyOrder.body = calls.flatMap Call.orderBodies := by
  refine flatMap_written fun c hc => ?_
  have isTyped := typed c hc
  cases c with
  | orderBy order =>
      obtain ⟨property, direction, d, seen, isText, isDirection⟩ := isTyped
      refine ⟨[⟨⟨property.textOf⟩, d⟩], ?_, ?_⟩
      · rw [Call.orders, compileAlone_order seen isText isDirection]
        rfl
      · simp only [Call.orderBodies, seen, Value.textOf_of_member isDirection]
        rfl
  | _ => exact ⟨[], rfl, rfl⟩

theorem groups_typed {strict : Bool} {calls : List Call} (typed : ∀ c ∈ calls, c.IsTyped strict) :
    ∃ groups : List PropertyReference,
      calls.flatMap Call.groups = groups.map Message.propertyReference ∧
      groups.map PropertyReference.body = calls.flatMap Call.groupBodies := by
  refine flatMap_written fun c hc => ?_
  have isTyped := typed c hc
  cases c with
  | groupBy group =>
      obtain ⟨property, seen, isText⟩ := isTyped
      refine ⟨[⟨property.textOf⟩], ?_, ?_⟩
      · rw [Call.groups, compileAlone_group seen isText]
        rfl
      · simp only [Call.groupBodies, seen]
        rfl
  | _ => exact ⟨[], rfl, rfl⟩

theorem startCursor_typed {strict : Bool} {calls : List Call}
    (typed : ∀ c ∈ calls, c.IsTyped strict) :
    checkOptional checkBytes ((lastOf Call.cursor? calls).getD .none) =
      .ok (lastOf Call.cursorBytes? calls) := by
  have same : (lastOf Call.cursor? calls).map (checkOptional checkBytes) =
      (lastOf Call.cursorBytes? calls).map fun b => .ok (some b) := by
    refine lastOf_read fun c hc => ?_
    have isTyped := typed c hc
    cases c with
    | fromCursor cursor =>
        obtain ⟨b, isBytes⟩ := isTyped
        have read : checkBytes cursor = .ok b := by simp only [checkBytes, isBytes]
        simp only [Call.cursor?, Call.cursorBytes?, isBytes, Option.map_some,
          checkOptional_of_content read (by simp [isBytes])]
    | _ => rfl
  rw [← Option.getD_map (checkOptional checkBytes), same]
  cases lastOf Call.cursorBytes? calls <;> rfl

theorem limit_typed {config dflt strict : Value} {calls : List Call}
    (configured : config.content = .config dflt strict)
    (typed : ∀ c ∈ calls, c.IsTyped strict.truthy) :
    checkOptional checkInteger ((lastOf (Call.limit? config) calls).getD .none) =
      .ok (lastOf Call.limitNumber? calls) := by
  have same : (lastOf (Call.limit? config) calls).map (checkOptional checkInteger) =
      (lastOf Call.limitNumber? calls).map fun n => .ok (some n) := by
    refine lastOf_read fun c hc => ?_
    have isTyped := typed c hc
    cases c with
    | limit v =>
        obtain ⟨n, isInt, checked⟩ := isTyped
        have read : checkInteger v = .ok n := by simp only [checkInteger, isInt]
        simp only [Call.limit?, Call.accepted?, checkPage_typed .limit configured isInt checked,
          Call.limitNumber?, isInt, Except.toOption, Option.map_some,
          checkOptional_of_content read (by simp [isInt])]
    | _ => rfl
  rw [← Option.getD_map (checkOptional checkInteger), same]
  cases lastOf Call.limitNumber? calls <;> rfl

theorem offset_typed {config dflt strict : Value} {calls : List Call}
    (configured : config.content = .config dflt strict)
    (typed : ∀ c ∈ calls, c.IsTyped strict.truthy) :
    checkInteger ((lastOf (Call.offset? config) calls).getD (.int 0)) =
      .ok ((lastOf Call.offsetNumber? calls).getD 0) := by
  have same : (lastOf (Call.offset? config) calls).map checkInteger =
      (lastOf Call.offsetNumber? calls).map .ok := by
    refine lastOf_read fun c hc => ?_
    have isTyped := typed c hc
    cases c with
    | offset v =>
        obtain ⟨n, isInt, checked⟩ := isTyped
        have read : checkInteger v = .ok n := by simp only [checkInteger, isInt]
        simp only [Call.offset?, Call.accepted?, checkPage_typed .offset configured isInt checked,
          Call.offsetNumber?, isInt, Except.toOption, Option.map_some, read]
    | _ => rfl
  rw [← Option.getD_map (checkInteger), same]
  cases lastOf Call.offsetNumber? calls <;> rfl

/-! ## The body -/

theorem encoded_compose (fs : List (Filter Value)) :
    (Filter.compose fs).map Filter.encoded = filterBody? (encodedFilters fs) := by
  match fs with
  | [] | [_] | _ :: _ :: _ => rfl

theorem holds_compose {fs : List (Filter Value)} (data : ∀ f ∈ fs, f.Holds IsDataMapping) :
    ∀ f ∈ Filter.compose fs, f.Holds IsDataMapping := by
  match fs with
  | [] => intro f hf; cases hf
  | [g] =>
      intro f hf
      cases hf
      exact data g List.mem_cons_self
  | g :: h :: rest =>
      intro f hf
      cases hf
      exact .composite data

/-- `effectiveScope` for a typed configuration and namespace is again one that a body can hold,
chosen by `Option.or` on the texts. -/
theorem effectiveScope_typed {config dflt strict scope : Value}
    (configured : config.content = .config dflt strict) (dfltScope : dflt.IsScope)
    (isScope : scope.IsScope) :
    ∃ n, effectiveScope config scope = .ok n ∧ n.IsScope ∧
      n.asText? = scope.asText?.or dflt.asText? := by
  rcases isScope with isNone | ⟨text, data⟩
  · refine ⟨dflt, ?_, dfltScope, ?_⟩
    · simp only [effectiveScope, isNone, if_true, defaultScope, configured]
    · rw [Value.asText?_of_isNone isNone, Option.none_or]
  · refine ⟨scope, ?_, .inr ⟨text, data⟩, ?_⟩
    · simp only [effectiveScope, Value.isNone_of_isSome text, Bool.false_eq_true, if_false]
    · rw [Value.asText?_eq_some_textOf text, Option.some_or]

/-- A typed builder compiles if `areWritableUnits` holds of its units. `run_eq` gives the fields,
the lemmas above read each of them, and `QueryMessage.make` puts them together. -/
theorem compile_run_typed {config dflt strict scope : Value} {calls : List Call}
    (configured : (Query.new config).config.content = .config dflt strict)
    (dfltScope : dflt.IsScope) (isScope : scope.IsScope)
    (typed : ∀ c ∈ calls, c.IsTyped strict.truthy)
    (writable : areWritableUnits (calls.flatMap Call.units) = true) :
    ∃ m, (((Query.new config).run calls).compile scope).result = .ok m ∧
      (∀ f ∈ m.filter, f.Holds IsDataMapping) ∧
      m.encoded = runBody (scope.asText?.or dflt.asText?) calls := by
  obtain ⟨n, effective, nScope, nText⟩ := effectiveScope_typed configured dfltScope isScope
  obtain ⟨shown, described⟩ := nScope.isNamespace.describe
  -- What the run has recorded is read field by field.
  obtain ⟨fs, -, compiledUnits, data, bodies⟩ := compileUnits_typed
    (exists_renders_of_areWritableUnits
      (fun u hu => Value.compile_typed (units_typed typed u hu) nScope) writable)
  obtain ⟨projectionTexts, projectionNames⟩ := projections_typed typed
  obtain ⟨orders, ordersAdded, orderBodies⟩ := orders_typed typed
  obtain ⟨groups, groupsAdded, groupBodies⟩ := groups_typed typed
  -- No field is left that could be refused, so the message is made of just that.
  have made := QueryMessage.make_of_read ((calls.flatMap Call.kinds).map fun v => ⟨v.textOf⟩)
    ((calls.flatMap Call.projections).map fun v => ⟨⟨v.textOf⟩⟩) (Filter.compose fs) orders groups
    (startCursor_typed typed) (limit_typed configured typed) (offset_typed configured typed)
  refine ⟨_, Eq.trans ?_ made, holds_compose data, ?_⟩
  · rw [compile, compileState_result, run_config, effective]
    simp only [run_eq, Query.new, List.nil_append, bind, Except.bind, described,
      compileNames_of_texts (kinds_typed typed) projectionTexts, compiledUnits, ordersAdded,
      groupsAdded]
  · simp only [QueryMessage.encoded, encoded_compose, bodies, nText, QueryMessage.bodyOf, runBody,
      ← projectionNames, orderBodies, groupBodies, List.map_map]
    cases filterBody? (unitBodies (scope.asText?.or dflt.asText?) (calls.flatMap Call.units)) <;>
      cases lastOf Call.cursorBytes? calls <;> cases lastOf Call.limitNumber? calls <;> rfl

/-- It does not if one of the filters cannot be written out. The namespace, the kinds and the
projections come before the filters in `compileState`, and none of them fails. -/
theorem compile_run_unwritable {config dflt strict scope : Value} {calls : List Call}
    (configured : (Query.new config).config.content = .config dflt strict)
    (dfltScope : dflt.IsScope) (isScope : scope.IsScope)
    (typed : ∀ c ∈ calls, c.IsTyped strict.truthy)
    (long : areWritableUnits (calls.flatMap Call.units) = false) :
    (((Query.new config).run calls).compile scope).result = .error .tooManyDigits := by
  obtain ⟨n, effective, nScope, -⟩ := effectiveScope_typed configured dfltScope isScope
  obtain ⟨shown, described⟩ := nScope.isNamespace.describe
  have failed := (compileUnits_unwritable
    (fun u hu => Value.compile_typed (units_typed typed u hu) nScope) long).2 0
  rw [compile, compileState_result, run_config, effective]
  simp only [run_eq, Query.new, List.nil_append, bind, Except.bind, described,
    compileNames_of_texts (kinds_typed typed) (projections_typed typed).1, failed]

/-- A comparison with an operand that is nested in 256 lists. -/
def Call.nestedTooDeep : List Call :=
  [.filterBy (.comparison 1 false (.text "a") (.member (.property .equal))
    (.mapping [(.text "k", nestedList 255)]))]

/-- A comparison with a key that has an integer for its identifier. -/
def Call.withId (n : Int) : List Call :=
  [.filterBy (.comparison 1 false (.text "a") (.member (.property .equal))
    (.key (.tuple [.tuple [.text "T", .int n]]) .none))]

/-- A builder with such a key does not compile if the integer has too many digits. It is stated
for all integers with `isWritable n = false`, so that no proof has to evaluate `Decimal.write` on
one. -/
theorem compile_withId_of_long {n : Int} (long : Decimal.isWritable n = false) :
    (∀ c ∈ Call.withId n, c.IsTyped false) ∧
      (((new .none).run (Call.withId n)).compile .none).result = .error .tooManyDigits := by
  have typed : ∀ c ∈ Call.withId n, c.IsTyped false := by
    simp only [Call.withId, List.forall_mem_cons, List.not_mem_nil, false_implies,
      implies_true, and_true]
    refine .comparison ⟨rfl, ⟨_, rfl⟩, .key rfl rfl ?_ (.inl rfl)⟩
    simp only [List.forall_mem_cons, List.not_mem_nil, false_implies, implies_true, and_true]
    exact ⟨_, _, rfl, ⟨rfl, .text _⟩, .inl ⟨_, rfl⟩⟩
  have unwritable : areWritableUnits ((Call.withId n).flatMap Call.units) = false := by
    simpa [Call.withId, Call.units, areWritableUnits, Value.isWritableUnit,
      Value.isWritableOperand, Value.content, Value.items?, Key.isEncodable, Value.unpack,
      Key.isWritable] using long
  have configured : (new .none).config.content = .config .none (.bool false) := rfl
  exact ⟨typed, compile_run_unwritable configured (.inl rfl) (.inl rfl) typed unwritable⟩

end Query

end EntityQuery
