import EntityQuery.Proofs.Looks
import EntityQuery.Proofs.Paging

/-!
# What copies compile to

A copy has recorded what the original has, down to the same objects, but it is another builder: what
is seen of its parts is seen on another way. Filters without builders look the same on all ways, and
of everything else a compilation needs only what shows at first glance.

* `Value.readings` are the readings of a value that compilations use, apart from filters and
  namespaces, and `Query.compile_congr` says that nothing else counts.
* `Workspace.compile_copy` compares a builder and its copy.
-/

namespace EntityQuery

/-! ## Readings -/

/-- The readings of a value as a name, a cursor or a number. They are all that a compilation takes
from the fields of a builder other than its units and configuration. -/
structure Readings where
  isNone : Bool
  spelling? : Option String
  textComplaint : Complaint
  byteString? : Option (List UInt8)
  integer? : Option Int
  integerComplaint : Complaint

/-- How a value is read. -/
def Value.readings (v : Value) : Readings :=
  ⟨v.isNone, v.spelling?, v.textComplaint, v.byteString?, v.integer?, v.integerComplaint⟩

/-- They show at first glance, so they are the same for a builder and its copy. -/
theorem superficial_readings : Superficial Value.readings where
  object _ _ := rfl
  lookUp ws steps way v direct := by
    cases v with
    | object => cases direct
    | query id state => rcases ws.lookUp_query steps way id state with h | ⟨q, h⟩ <;> rw [h] <;> rfl
    | _ => rfl

theorem KindExpression.make_congr {v w : Value} (same : v.readings = w.readings) :
    make v = make w := by
  have spelling := congrArg Readings.spelling? same
  have complaint := congrArg Readings.textComplaint same
  dsimp only [Value.readings] at spelling complaint
  rw [make_read, make_read, spelling, nameFault, nameFault, complaint]

theorem Projection.make_congr {v w : Value} (same : v.readings = w.readings) :
    make v = make w := by
  have spelling := congrArg Readings.spelling? same
  have complaint := congrArg Readings.textComplaint same
  dsimp only [Value.readings] at spelling complaint
  rw [make_read, make_read, spelling, nameFault, nameFault, complaint]

theorem checkOptional_checkBytes_congr {v w : Value} (same : v.readings = w.readings) :
    checkOptional checkBytes v = checkOptional checkBytes w := by
  have isNone := congrArg Readings.isNone same
  have byteString := congrArg Readings.byteString? same
  dsimp only [Value.readings] at isNone byteString
  rw [checkOptional_eq (checkBytes_eq v), checkOptional_eq (checkBytes_eq w), Value.orNothing,
    Value.orNothing, isNone, byteString]

theorem checkInteger_congr {v w : Value} (same : v.readings = w.readings) :
    checkInteger v = checkInteger w := by
  have integer := congrArg Readings.integer? same
  have complaint := congrArg Readings.integerComplaint same
  dsimp only [Value.readings] at integer complaint
  rw [checkInteger_eq, checkInteger_eq, integer, complaint]

theorem checkOptional_checkInteger_congr {v w : Value} (same : v.readings = w.readings) :
    checkOptional checkInteger v = checkOptional checkInteger w := by
  have isNone := congrArg Readings.isNone same
  have integer := congrArg Readings.integer? same
  have complaint := congrArg Readings.integerComplaint same
  dsimp only [Value.readings] at isNone integer complaint
  rw [checkOptional_eq (checkInteger_eq v), checkOptional_eq (checkInteger_eq w), Value.orNothing,
    Value.orNothing, isNone, integer, complaint]

/-- `mapM` over names that are read alike. Kinds and projections differ in `make` only. -/
theorem mapM_congr_readings {α : Type} {make : Value → Except Failure α}
    (congr : ∀ {v w : Value}, v.readings = w.readings → make v = make w) {vs ws : List Value}
    (same : vs.map Value.readings = ws.map Value.readings) : vs.mapM make = ws.mapM make := by
  induction vs generalizing ws with
  | nil =>
      cases ws with
      | nil => rfl
      | cons w rest => cases same
  | cons v vs ih =>
      cases ws with
      | nil => cases same
      | cons w rest =>
          obtain ⟨first, others⟩ := List.cons.inj same
          rw [List.mapM_cons, List.mapM_cons, congr first, ih others]

/-! ## Builders -/

/-- Two builders that are compiled alike for a namespace: they have the same `effectiveScope`,
filters, orders and groups, and the same `readings` elsewhere. -/
structure Query.ReadAlike (scope : Value) (q q' : Query) : Prop where
  effective : effectiveScope q.config scope = effectiveScope q'.config scope
  kinds : q.kinds.map Value.readings = q'.kinds.map Value.readings
  projections : q.projections.map Value.readings = q'.projections.map Value.readings
  filters : q.filters = q'.filters
  orders : q.orders = q'.orders
  groups : q.groups = q'.groups
  startCursor : q.startCursor.readings = q'.startCursor.readings
  limit : q.limit.readings = q'.limit.readings
  offset : q.offset.readings = q'.offset.readings

namespace Query.ReadAlike

variable {scope : Value} {q q' : Query} (alike : q.ReadAlike scope q')

include alike

theorem compile_eq : q.compile scope = q'.compile scope := by
  obtain ⟨effective, kinds, projections, filters, orders, groups, startCursor, limit, offset⟩ :=
    alike
  have names : compileNames q.kinds q.projections = compileNames q'.kinds q'.projections := by
    rw [compileNames, compileNames, mapM_congr_readings KindExpression.make_congr kinds,
      mapM_congr_readings Projection.make_congr projections]
  have number : q.kinds.length = q'.kinds.length := by
    have lengths := congrArg List.length kinds
    rwa [List.length_map, List.length_map] at lengths
  have made : ∀ (ks : List KindExpression) (ps : List Projection) (f : Option (Filter Value)),
      QueryMessage.make ks ps f q.orders q.groups q.startCursor q.limit q.offset =
        QueryMessage.make ks ps f q'.orders q'.groups q'.startCursor q'.limit q'.offset := by
    intro ks ps f
    rw [QueryMessage.make_eq, QueryMessage.make_eq, orders, groups,
      checkOptional_checkBytes_congr startCursor, checkOptional_checkInteger_congr limit,
      checkInteger_congr offset]
  obtain ⟨config, kinds, projections, filters, orders, groups, startCursor, limit, offset⟩ := q
  obtain ⟨config', kinds', projections', filters', orders', groups', startCursor', limit',
    offset'⟩ := q'
  dsimp only at *
  subst filters orders groups
  simp only [compile, compileState, effective, names, number, made]

theorem request_eq (projectId : Value) :
    q.request scope projectId = q'.request scope projectId := by
  have effective := alike.effective
  cases found : effectiveScope q.config scope with
  | error e =>
      have given : (liftM (Except.error e : Except Failure Value) : Traced Value).result =
        .error e := rfl
      rw [request, request, ← effective, found, Traced.bind_of_error given,
        Traced.bind_of_error given]
  | ok n =>
      have compiled : q.compile n = q'.compile n := by
        rw [compile_effectiveScope found, compile_effectiveScope (effective.symm.trans found),
          alike.compile_eq]
      rw [request, request, ← effective, found]
      have given : (liftM (Except.ok n : Except Failure Value) : Traced Value).result = .ok n := rfl
      simp only [Traced.bind_of_ok given, compiled]

end Query.ReadAlike

/-! ## Copies -/

namespace Workspace

/-- Which references are found in a value depends on the places only. -/
theorem Finds.congr {ws ws' : Workspace} (places : ws'.places = ws.places) {v : Value} {r : Ref}
    (h : ws'.Finds v r) : ws.Finds v r := by
  induction h with
  | here among => exact .here among
  | place among found _ ih => exact .place among (places ▸ found) ih

theorem Builderless.congr {ws ws' : Workspace} (places : ws'.places = ws.places) {v : Value}
    (h : ws.Builderless v) : ws'.Builderless v :=
  fun id state finds => h id state (finds.congr places)

/-- The same record is `ReadAlike` as one builder and as another, if there is no builder in its
filters, nor in its configuration if that is asked for a namespace. A builder could be the one that
is compiled, and would not be looked up inside of itself. -/
theorem readAlike_of_builderless {ws : Workspace} (direct : ws.Direct) {q : Query}
    (filters : ∀ u ∈ q.filters, ws.Builderless u) {scope : Value}
    (config : scope.isNone = true → ws.Builderless q.config) (id id' : Nat) :
    Query.ReadAlike scope (q.lookUp fun part => ws.sight ws.depth [(id, part)])
      (q.lookUp fun part => ws.sight ws.depth [(id', part)]) := by
  obtain ⟨steps, depth⟩ := ws.exists_depth_eq
  rw [depth]
  -- The two ways differ in the builder that is on them, which no reading takes notice of.
  have read : ∀ (part : QueryPart) (v : Value),
      (v.lookUp (ws.sight (steps + 2) [(id, part)])).readings =
        (v.lookUp (ws.sight (steps + 2) [(id', part)])).readings := by
    intro part v
    rw [superficial_readings.lookUp_eq direct rfl, superficial_readings.lookUp_eq direct rfl]
  have names : ∀ (part : QueryPart) (vs : List Value),
      (lookUpItems (ws.sight (steps + 2) [(id, part)]) vs).map Value.readings =
        (lookUpItems (ws.sight (steps + 2) [(id', part)]) vs).map Value.readings := by
    intro part vs
    rw [lookUpItems_eq_map, lookUpItems_eq_map, List.map_map, List.map_map]
    exact List.map_congr_left fun v _ => read part v
  refine ⟨?_, names .kinds _, names .projections _, ?_, rfl, rfl, read .startCursor _,
    read .limit _, read .offset _⟩
  · -- The configuration counts only if no namespace is given.
    unfold effectiveScope
    split
    · next isNone =>
        dsimp only [QueryState.lookUp]
        rw [(config isNone).lookUp_eq (steps + 2) [(id, .config)] [(id', .config)]]
    · rfl
  · dsimp only [QueryState.lookUp]
    rw [lookUpItems_eq_map, lookUpItems_eq_map]
    exact List.map_congr_left fun u hu => (filters u hu).lookUp_eq _ _ _

/-- A copy has recorded what the original has, down to the same objects. -/
theorem copy_builders {ws : Workspace} {id : Nat} {q : Query}
    (recorded : ws.builders[id]? = some q) :
    (ws.copy id).2.builders[(ws.copy id).1]? = some q ∧ (ws.copy id).2.builders[id]? = some q := by
  have inside : id < ws.builders.length := (List.getElem?_eq_some_iff.mp recorded).1
  simp only [copy, recorded, Option.toList_some]
  constructor
  · exact List.getElem?_concat_length
  · rw [List.getElem?_append_left inside, recorded]

/-- A copy compiles to the message that the original compiles to, or fails in the same way, failures
with positions included. -/
theorem compile_copy {ws : Workspace} (direct : ws.Direct) {id : Nat} {q : Query}
    (recorded : ws.builders[id]? = some q) (filters : ∀ u ∈ q.filters, ws.Builderless u)
    {scope : Value} (config : scope.isNone = true → ws.Builderless q.config) :
    ((ws.copy id).2.compile (ws.copy id).1 scope).1 = ((ws.copy id).2.compile id scope).1 ∧
      ∀ projectId, ((ws.copy id).2.request (ws.copy id).1 scope projectId).1 =
        ((ws.copy id).2.request id scope projectId).1 := by
  obtain ⟨asCopy, asOriginal⟩ := copy_builders recorded
  have places : (ws.copy id).2.places = ws.places := rfl
  have directCopy : (ws.copy id).2.Direct := direct
  have filtersCopy : ∀ u ∈ q.filters, (ws.copy id).2.Builderless u :=
    fun u hu => (filters u hu).congr places
  have configCopy : scope.isNone = true → (ws.copy id).2.Builderless q.config :=
    fun isNone => (config isNone).congr places
  -- Both are seen in the workspace after the copying, each with itself on the way.
  have alike := readAlike_of_builderless directCopy filtersCopy configCopy (ws.copy id).1 id
  have seenCopy : (ws.copy id).2.builder? (ws.copy id).1 = some (q.lookUp fun part =>
      (ws.copy id).2.sight (ws.copy id).2.depth [((ws.copy id).1, part)]) := by
    rw [builder?, asCopy, Option.map_some]
  have seenOriginal : (ws.copy id).2.builder? id = some (q.lookUp fun part =>
      (ws.copy id).2.sight (ws.copy id).2.depth [(id, part)]) := by
    rw [builder?, asOriginal, Option.map_some]
  refine ⟨?_, fun projectId => ?_⟩
  · rw [compile, compile, seenCopy, seenOriginal]
    exact alike.compile_eq
  · rw [request, request, seenCopy, seenOriginal]
    exact alike.request_eq projectId

end Workspace

end EntityQuery
