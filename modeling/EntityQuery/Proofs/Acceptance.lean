import EntityQuery.Proofs.Offenders
import EntityQuery.Proofs.Reading

/-!
# What a compilation accepts

A builder records without looking, so it is its compilation that finds out what was recorded. The
compilation reads names, units and fields one stage after the other, and each stage has its own
way to fail: a bad name ends it at once, and so does a bad unit, while all bad fields are reported
together.

* `Query.Acceptable` is a builder with nothing bad in it, and `Query.CompilesAs` the message that it
  compiles to, field by field.
* `Query.Fault` is the failure of a builder with something bad in it: that of the first stage that
  fails.
* `mapM_read`, `compileUnits_eq_ok_iff` and `QueryMessage.make_eq_ok_iff` are the stages, and
  `Query.compile_eq_ok_iff` and `Query.compile_eq_error_iff` the whole.
-/

namespace EntityQuery

/-- What is computed in two stages succeeds if both do. Compilations are sequences of binds in
`Except Failure`, and this takes one apart at a time without unfolding it. -/
theorem bind_eq_ok_iff {ε α β : Type} {x : Except ε α} {f : α → Except ε β} {b : β} :
    (x >>= f) = .ok b ↔ ∃ a, x = .ok a ∧ f a = .ok b := by
  cases x <;> simp [bind, Except.bind]

/-- It fails at the first stage or, after that has succeeded, at the second. -/
theorem bind_eq_error_iff {ε α β : Type} {x : Except ε α} {f : α → Except ε β} {e : ε} :
    (x >>= f) = .error e ↔ x = .error e ∨ ∃ a, x = .ok a ∧ f a = .error e := by
  cases x <;> simp [bind, Except.bind]

/-- What is computed is often wrapped at the end, as a filter is in the `Value` that a unit answers.
Then it is there just if what is wrapped is, and it fails in the same way. -/
theorem map_eq_ok_iff {ε α β : Type} {f : α → β} {x : Except ε α} {b : β} :
    f <$> x = .ok b ↔ ∃ a, x = .ok a ∧ f a = b := by
  cases x <;> simp [Functor.map, Except.map]

theorem map_eq_error_iff {ε α β : Type} {f : α → β} {x : Except ε α} {e : ε} :
    f <$> x = .error e ↔ x = .error e := by
  cases x <;> simp [Functor.map, Except.map]

theorem Traced.map_result_eq_ok {α β : Type} {f : α → β} {x : Traced α} {b : β} :
    (f <$> x).result = .ok b ↔ ∃ a, x.result = .ok a ∧ f a = b := by
  rw [Traced.map_result, map_eq_ok_iff]

/-! ## Names -/

/-- `List.mapM` over readings stops at the first item that cannot be read. It is the one induction
behind kinds and projections. -/
theorem mapM_read {α β : Type} {make : Value → Except Failure β} {read? : Value → Option α}
    {mk : α → β} {fault : Value → Failure}
    (each : ∀ v, make v = (read? v).elim (.error (fault v)) fun a => .ok (mk a))
    (l : List Value) :
    l.mapM make =
      match l.find? fun v => (read? v).isNone with
      | some v => .error (fault v)
      | none => .ok ((l.filterMap read?).map mk) := by
  induction l with
  | nil => rfl
  | cons v rest ih =>
      rw [List.mapM_cons, each, ih]
      cases read : read? v with
      | none => simp [read, bind, Except.bind]
      | some a =>
          simp only [List.find?_cons, read, Option.isNone_some, List.filterMap_cons]
          cases rest.find? fun v => (read? v).isNone <;> rfl

/-- Two ways to say that `read?` reads every item of a list: no item is without a reading, or the
readings are those of another list. -/
theorem map_eq_some_iff {α γ : Type} {read? : γ → Option α} {l : List γ} {as : List α} :
    l.map read? = as.map some ↔
      (l.find? fun v => (read? v).isNone) = none ∧ l.filterMap read? = as := by
  induction l generalizing as with
  | nil => cases as <;> simp
  | cons v rest ih =>
      cases read : read? v with
      | none => cases as <;> simp [read]
      | some a =>
          cases as with
          | nil => simp [read]
          | cons b bs => simp [read, ih, and_left_comm]

theorem exists_map_eq_some_iff {α γ : Type} {read? : γ → Option α} {l : List γ} :
    (∃ as : List α, l.map read? = as.map some) ↔ ∀ a ∈ l, (read? a).isSome = true := by
  simp only [map_eq_some_iff, exists_and_left, exists_eq', and_true, List.find?_eq_none,
    Option.isNone_iff_eq_none, Option.isSome_iff_ne_none, ne_eq]

/-- The failure to read the name of a message of some class, with the complaint of
`Value.textComplaint`. -/
def nameFault (cls : MessageClass) (v : Value) : Failure :=
  .invalid cls [⟨[.key "name"], v.textComplaint⟩]

theorem KindExpression.make_read (v : Value) :
    make v = v.spelling?.elim (.error (nameFault .kindExpression v)) fun s => .ok ⟨s⟩ := by
  rw [make_eq, checkText_eq]
  cases v.spelling? <;> rfl

theorem Projection.make_read (v : Value) :
    make v = v.spelling?.elim (.error (nameFault .propertyReference v)) fun s => .ok ⟨⟨s⟩⟩ := by
  rw [make, PropertyReference.make_eq, checkText_eq]
  cases v.spelling? <;> rfl

/-- `checkMember` accepts what spells a member. Its other outcome, that a value cannot even be
looked up, is left to `checkMember_of_undescribed`. -/
theorem checkMember_eq_ok_iff {α : Type} {enumeration : Enumeration}
    {ofSpelling? : String → Option α} {v : Value} {a : α} :
    checkMember enumeration ofSpelling? v = .ok a ↔ v.spelling?.bind ofSpelling? = some a := by
  unfold checkMember
  cases v.spelling?.bind ofSpelling? with
  | some m => simp
  | none => cases v.lookUpFailure? <;> simp [Checked.complain]

/-- A property is referred to by whatever spells its name. -/
theorem PropertyReference.make_eq_ok_iff {v : Value} {m : PropertyReference} :
    make v = .ok m ↔ v.spelling? = some m.name := by
  rw [make_eq, checkText_eq, Checked.orInvalid_eq_ok_iff, Checked.under_eq_ok]
  cases v.spelling? with
  | none => simp [Checked.orComplain, Checked.complain, Except.map]
  | some s =>
      obtain ⟨name⟩ := m
      simp [Checked.orComplain, Except.map]

/-- The first of some names that cannot be read. -/
def badName? (names : List Value) : Option Value := names.find? fun v => v.spelling?.isNone

/-- `compileNames` by its first bad name. Projections are only read if all kinds are, so a bad kind
hides a bad projection. -/
theorem compileNames_eq (kinds projections : List Value) :
    compileNames kinds projections =
      match badName? kinds, badName? projections with
      | some v, _ => .error (nameFault .kindExpression v)
      | none, some v => .error (nameFault .propertyReference v)
      | none, none => .ok ((kinds.filterMap Value.spelling?).map fun s => ⟨s⟩,
          (projections.filterMap Value.spelling?).map fun s => ⟨⟨s⟩⟩) := by
  unfold compileNames badName?
  rw [mapM_read KindExpression.make_read, mapM_read Projection.make_read]
  cases kinds.find? fun v => v.spelling?.isNone with
  | some v => rfl
  | none => cases projections.find? fun v => v.spelling?.isNone <;> rfl

/-- Names are read one by one if none is bad. It is stated for `mk` and `name` that undo each other,
since kinds and projections wrap a text differently. -/
theorem names_eq_iff {α : Type} {mk : String → α} {name : α → String} (mk_name : mk ∘ name = id)
    (name_mk : name ∘ mk = id) {names : List Value} {ms : List α} :
    names.map Value.spelling? = ms.map (some ∘ name) ↔
      badName? names = none ∧ ms = (names.filterMap Value.spelling?).map mk := by
  rw [← List.map_map, map_eq_some_iff]
  refine and_congr_right fun _ => ⟨fun read => ?_, ?_⟩
  · rw [read, List.map_map, mk_name, List.map_id]
  · rintro rfl
    rw [List.map_map, name_mk, List.map_id]

/-- Kinds and projections are read if all of their names are. -/
theorem compileNames_eq_ok_iff {kinds projections : List Value}
    {names : List KindExpression × List Projection} :
    compileNames kinds projections = .ok names ↔
      kinds.map Value.spelling? = names.1.map (some ∘ (·.name)) ∧
        projections.map Value.spelling? = names.2.map (some ∘ (·.property.name)) := by
  have kinds_iff := @names_eq_iff KindExpression (fun s => ⟨s⟩) (·.name) rfl rfl kinds names.1
  have projections_iff :=
    @names_eq_iff Projection (fun s => ⟨⟨s⟩⟩) (·.property.name) rfl rfl projections names.2
  rw [kinds_iff, projections_iff, compileNames_eq]
  cases badName? kinds with
  | some v => simp
  | none =>
      cases badName? projections with
      | some v => simp
      | none => simp [Prod.ext_iff, eq_comm]

theorem exists_compileNames_eq_ok_iff {kinds projections : List Value} :
    (∃ names, compileNames kinds projections = .ok names) ↔
      badName? kinds = none ∧ badName? projections = none := by
  rw [compileNames_eq]
  cases badName? kinds <;> cases badName? projections <;> simp

theorem compileNames_eq_error_iff {kinds projections : List Value} {e : Failure} :
    compileNames kinds projections = .error e ↔
      (∃ v, badName? kinds = some v ∧ nameFault .kindExpression v = e) ∨
        badName? kinds = none ∧
          ∃ v, badName? projections = some v ∧ nameFault .propertyReference v = e := by
  rw [compileNames_eq]
  cases badName? kinds <;> cases badName? projections <;> simp

/-! ## Units -/

/-- A unit compiles to a filter for a namespace: it is compilable, and what it answers is seen as
the filter. -/
def CompilesTo (scope unit : Value) (f : Filter Value) : Prop :=
  unit.isCompilable = true ∧
    ∃ answer, (unit.compile scope).result = .ok answer ∧ answer.content = .message (.filter f)

/-- `compileUnits` succeeds just if each unit `CompilesTo` its filter. The index is only used for
failures, so it is arbitrary here. -/
theorem compileUnits_eq_ok_iff {scope : Value} {units : List Value} {index : Nat}
    {fs : List (Filter Value)} :
    (compileUnits units index scope).result = .ok fs ↔
      List.Forall₂ (CompilesTo scope) units fs := by
  constructor
  · intro compiled
    induction units generalizing index fs with
    | nil =>
        cases compiled
        exact .nil
    | cons unit rest ih =>
        rw [compileUnits] at compiled
        split at compiled
        next compilable =>
          obtain ⟨answer, answers, compiled⟩ := Traced.bind_result_eq_ok.mp compiled
          split at compiled
          next f isFilter =>
            obtain ⟨gs, others, compiled⟩ := Traced.bind_result_eq_ok.mp compiled
            cases compiled
            exact .cons ⟨compilable, answer, answers, isFilter⟩ (ih others)
          -- What is no filter is described, and nothing is compiled any more.
          next notFilter =>
            obtain ⟨_, _, compiled⟩ := Traced.bind_result_eq_ok.mp compiled
            cases compiled
        next notCompilable =>
          obtain ⟨_, _, compiled⟩ := Traced.bind_result_eq_ok.mp compiled
          cases compiled
  · intro each
    induction each generalizing index with
    | nil => rfl
    | cons unit _ ih =>
        obtain ⟨compilable, answer, answers, isFilter⟩ := unit
        rw [compileUnits_cons_result compilable _ _ answers isFilter, ih]
        rfl

theorem compilesToFilter_iff {scope : Value} {units : List Value} :
    (∀ u ∈ units, CompilesToFilter scope u) ↔
      ∃ fs, List.Forall₂ (CompilesTo scope) units fs := by
  constructor
  · intro each
    induction units with
    | nil => exact ⟨[], .nil⟩
    | cons u rest ih =>
        obtain ⟨compilable, answer, f, answers, isFilter⟩ := each u List.mem_cons_self
        obtain ⟨fs, others⟩ := ih fun u hu => each u (List.mem_cons_of_mem _ hu)
        exact ⟨f :: fs, .cons ⟨compilable, answer, answers, isFilter⟩ others⟩
  · rintro ⟨fs, each⟩ u hu
    induction each with
    | nil => cases hu
    | cons unit _ ih =>
        rcases List.mem_cons.mp hu with rfl | later
        · obtain ⟨compilable, answer, answers, isFilter⟩ := unit
          exact ⟨compilable, answer, _, answers, isFilter⟩
        · exact ih later

theorem compileFilters_eq_error_iff {units : List Value} {scope : Value} {e : Failure} :
    (compileFilters units scope).result = .error e ↔
      (compileUnits units 0 scope).result = .error e := by
  rw [compileFilters, ← bind_pure_comp, Traced.bind_result]
  cases (compileUnits units 0 scope).result <;> simp [bind, Except.bind]

/-! ## Fields -/

/-- The complaints about the messages of a field that are of another class than wanted. Orders and
groups are recorded as whatever they compile to, so a group may turn up among the orders. -/
def strayProblems (field : String) (cls : MessageClass) (ms : List (Message Value)) :
    List Problem :=
  ms.zipIdx.flatMap fun e =>
    if e.1.cls = cls then [] else [⟨[.key field, .index e.2], .messageExpected cls⟩]

/-- The complaint about a field, unless it is read. -/
def fieldProblem (field : String) (c : Complaint) (isRead : Bool) : List Problem :=
  if isRead then [] else [⟨[.key field], c⟩]

/-- The complaints about the fields of a compiled query that are not read, in the order in which
`QueryMessage.make` reports them. -/
def QueryMessage.problems (orders groups : List (Message Value))
    (startCursor limit offset : Value) : List Problem :=
  strayProblems "orders" .propertyOrder orders ++
  strayProblems "distinct_on" .propertyReference groups ++
  fieldProblem "start_cursor" .bytesExpected
    (startCursor.isNone || startCursor.byteString?.isSome) ++
  fieldProblem "limit" limit.integerComplaint (limit.isNone || limit.integer?.isSome) ++
  fieldProblem "offset" offset.integerComplaint offset.integer?.isSome

theorem Message.isSome_order? (m : Message Value) :
    m.order?.isSome = decide (m.cls = .propertyOrder) := by
  cases m <;> rfl

theorem Message.isSome_reference? (m : Message Value) :
    m.reference?.isSome = decide (m.cls = .propertyReference) := by
  cases m <;> rfl

theorem Value.isSome_orNothing {α : Type} (read? : Value → Option α) (v : Value) :
    (v.orNothing read?).isSome = (v.isNone || (read? v).isSome) := by
  unfold orNothing
  cases v.isNone <;> simp

/-- The complaints about the messages of a field, as they are found. -/
theorem found_strays {β : Type} {check : Value → Checked β} {read? : Message Value → Option β}
    {cls : MessageClass}
    (each : ∀ m, check (.message m) = .orComplain (.messageExpected cls) (read? m))
    (isSome : ∀ m, (read? m).isSome = decide (m.cls = cls)) (field : String)
    (ms : List (Message Value)) :
    (Checked.under (.key field) (Checked.items check 0 (ms.map .message))).found =
      strayProblems field cls ms := by
  rw [Checked.found_under, (Checked.items_orComplain each ms 0).2, List.map_flatMap]
  unfold strayProblems
  congr 1
  funext e
  rw [isSome]
  by_cases same : e.1.cls = cls <;> simp [same, Problem.under]

section

variable (kinds : List KindExpression) (projections : List Projection)
  (filter : Option (Filter Value)) (orders groups : List (Message Value))
  (startCursor limit offset : Value)

/-- The fields of a compiled query are what is read for each, and nothing else is asked of them. -/
theorem QueryMessage.make_eq_ok_iff (m : QueryMessage Value) :
    make kinds projections filter orders groups startCursor limit offset = .ok m ↔
      m.kinds = kinds ∧ m.projections = projections ∧ m.filter = filter ∧
      orders.map Message.order? = m.orders.map some ∧
      groups.map Message.reference? = m.distinctOn.map some ∧
      startCursor.orNothing Value.byteString? = some m.startCursor ∧
      limit.orNothing Value.integer? = some m.limit ∧ offset.integer? = some m.offset := by
  rw [make_eq, checkOptional_eq (checkBytes_eq startCursor),
    checkOptional_eq (checkInteger_eq limit), checkInteger_eq]
  simp only [Checked.orInvalid_eq_ok_iff, Checked.and_eq_ok, Checked.under_eq_ok,
    Checked.items_eq_ok_iff PropertyOrder.check_message,
    Checked.items_eq_ok_iff PropertyReference.check_message, Checked.orComplain_eq_ok_iff]
  constructor
  · rintro ⟨_, offset, ⟨_, limit, ⟨_, cursor, ⟨_, groups, ⟨_, orders, made, ordersRead, rfl⟩,
      groupsRead, rfl⟩, cursorRead, rfl⟩, limitRead, rfl⟩, offsetRead, rfl⟩
    cases made
    exact ⟨rfl, rfl, rfl, ordersRead, groupsRead, cursorRead, limitRead, offsetRead⟩
  · rintro ⟨rfl, rfl, rfl, ordersRead, groupsRead, cursorRead, limitRead, offsetRead⟩
    exact ⟨_, _, ⟨_, _, ⟨_, _, ⟨_, _, ⟨_, _, rfl, ordersRead, rfl⟩, groupsRead, rfl⟩, cursorRead,
      rfl⟩, limitRead, rfl⟩, offsetRead, rfl⟩

/-- All fields that are not read are reported together, so the failure is `QueryMessage.problems` as
a whole and not the first of them. -/
theorem QueryMessage.make_eq_error_iff (e : Failure) :
    make kinds projections filter orders groups startCursor limit offset = .error e ↔
      problems orders groups startCursor limit offset ≠ [] ∧
        e = .invalid .query (problems orders groups startCursor limit offset) := by
  rw [make_eq, checkOptional_eq (checkBytes_eq startCursor),
    checkOptional_eq (checkInteger_eq limit), checkInteger_eq]
  have ordersEnd :=
    (Checked.items_orComplain PropertyOrder.check_message orders 0).1.under (.key "orders")
  have groupsEnd :=
    (Checked.items_orComplain PropertyReference.check_message groups 0).1.under
      (.key "distinct_on")
  have cursorEnds := Checked.ends_orComplain (.key "start_cursor") .bytesExpected
    (startCursor.orNothing Value.byteString?)
  have limitEnds := Checked.ends_orComplain (.key "limit") limit.integerComplaint
    (limit.orNothing Value.integer?)
  have offsetEnds := Checked.ends_orComplain (.key "offset") offset.integerComplaint
    offset.integer?
  -- Each field is checked along with all before it, so whether a check ends is settled in order.
  have upToOrders := (Checked.Ends.ok (QueryMessage.mk kinds projections filter)).and ordersEnd
  have upToGroups := upToOrders.and groupsEnd
  have upToCursor := upToGroups.and cursorEnds
  have upToLimit := upToCursor.and limitEnds
  rw [(upToLimit.and offsetEnds).orInvalid_eq_error_iff, Checked.found_and upToLimit offsetEnds,
    Checked.found_and upToCursor limitEnds, Checked.found_and upToGroups cursorEnds,
    Checked.found_and upToOrders groupsEnd, Checked.found_and (.ok _) ordersEnd,
    found_strays PropertyOrder.check_message Message.isSome_order?,
    found_strays PropertyReference.check_message Message.isSome_reference?,
    Checked.found_orComplain, Checked.found_orComplain, Checked.found_orComplain,
    Value.isSome_orNothing, Value.isSome_orNothing]
  rfl

end

/-! ## Builders -/

namespace Query

/-- What a builder compiles to for a namespace, field by field. It speaks of the builder and the
message only, and of `compile` no more. -/
structure CompilesAs (q : Query) (scope : Value) (m : QueryMessage Value) : Prop where
  kinds : q.kinds.map Value.spelling? = m.kinds.map (some ∘ (·.name))
  projections : q.projections.map Value.spelling? = m.projections.map (some ∘ (·.property.name))
  filter : ∃ fs, List.Forall₂ (CompilesTo scope) q.filters fs ∧ m.filter = Filter.compose fs
  orders : q.orders.map Message.order? = m.orders.map some
  groups : q.groups.map Message.reference? = m.distinctOn.map some
  startCursor : q.startCursor.orNothing Value.byteString? = some m.startCursor
  limit : q.limit.orNothing Value.integer? = some m.limit
  offset : q.offset.integer? = some m.offset

/-- A builder that can be compiled for a namespace: each of its fields can be read, and its units
compile to filters. -/
structure Acceptable (q : Query) (scope : Value) : Prop where
  kinds : ∀ v ∈ q.kinds, v.spelling?.isSome = true
  projections : ∀ v ∈ q.projections, v.spelling?.isSome = true
  filters : ∀ u ∈ q.filters, CompilesToFilter scope u
  orders : ∀ m ∈ q.orders, m.cls = .propertyOrder
  groups : ∀ m ∈ q.groups, m.cls = .propertyReference
  startCursor : q.startCursor.isNone = true ∨ q.startCursor.byteString?.isSome = true
  limit : q.limit.isNone = true ∨ q.limit.integer?.isSome = true
  offset : q.offset.integer?.isSome = true

/-- The complaints about the fields of a builder. -/
def problems (q : Query) : List Problem :=
  QueryMessage.problems q.orders q.groups q.startCursor q.limit q.offset

/-- How a builder fails that cannot be compiled for a namespace: by its first bad kind, else by its
first bad projection, else by its units, and else by all of its bad fields. -/
inductive Fault (q : Query) (scope : Value) : Failure → Prop where
  | kind {v : Value} (first : badName? q.kinds = some v) :
      Fault q scope (nameFault .kindExpression v)
  | projection {v : Value} (kinds : badName? q.kinds = none)
      (first : badName? q.projections = some v) :
      Fault q scope (nameFault .propertyReference v)
  | units {e : Failure} (kinds : badName? q.kinds = none)
      (projections : badName? q.projections = none)
      (failed : (compileFilters q.filters scope).result = .error e) : Fault q scope e
  | fields (kinds : badName? q.kinds = none) (projections : badName? q.projections = none)
      (filters : ∀ u ∈ q.filters, CompilesToFilter scope u) (bad : q.problems ≠ []) :
      Fault q scope (.invalid .query q.problems)

/-- `compile` stage by stage, once `effectiveScope` and `Value.describe` are out of the way. -/
theorem compile_stages {q : Query} {scope n : Value}
    (effective : effectiveScope q.config scope = .ok n) (described : ∃ s, n.describe = .ok s) :
    (q.compile scope).result = (do
      let names ← compileNames q.kinds q.projections
      let filters ← (compileUnits q.filters 0 n).result
      QueryMessage.make names.1 names.2 (Filter.compose filters) q.orders q.groups q.startCursor
        q.limit q.offset) := by
  obtain ⟨shown, described⟩ := described
  rw [compile, compileState_result, effective]
  simp only [bind, Except.bind, described]

section

variable {q : Query} {scope n : Value} (effective : effectiveScope q.config scope = .ok n)
  (described : ∃ s, n.describe = .ok s)

include effective described

theorem compile_eq_ok_iff (m : QueryMessage Value) :
    (q.compile scope).result = .ok m ↔ q.CompilesAs n m := by
  rw [compile_stages effective described, bind_eq_ok_iff]
  simp only [bind_eq_ok_iff, compileNames_eq_ok_iff, compileUnits_eq_ok_iff,
    QueryMessage.make_eq_ok_iff]
  constructor
  · rintro ⟨names, ⟨kinds, projections⟩, fs, units, sameKinds, sameProjections, filter, orders,
      groups, cursor, limit, offset⟩
    rw [← sameKinds] at kinds
    rw [← sameProjections] at projections
    exact ⟨kinds, projections, ⟨fs, units, filter⟩, orders, groups, cursor, limit, offset⟩
  · rintro ⟨kinds, projections, ⟨fs, units, filter⟩, orders, groups, cursor, limit, offset⟩
    exact ⟨(m.kinds, m.projections), ⟨kinds, projections⟩, fs, units, rfl, rfl, filter, orders,
      groups, cursor, limit, offset⟩

theorem compile_eq_error_iff (e : Failure) :
    (q.compile scope).result = .error e ↔ q.Fault n e := by
  rw [compile_stages effective described, bind_eq_error_iff]
  simp only [bind_eq_error_iff]
  constructor
  · rintro (failed | ⟨names, read, failed | ⟨fs, units, failed⟩⟩)
    · obtain ⟨v, first, rfl⟩ | ⟨kinds, v, first, rfl⟩ := compileNames_eq_error_iff.mp failed
      · exact .kind first
      · exact .projection kinds first
    · obtain ⟨kinds, projections⟩ := exists_compileNames_eq_ok_iff.mp ⟨names, read⟩
      exact .units kinds projections (compileFilters_eq_error_iff.mpr failed)
    · obtain ⟨kinds, projections⟩ := exists_compileNames_eq_ok_iff.mp ⟨names, read⟩
      obtain ⟨bad, rfl⟩ := (QueryMessage.make_eq_error_iff ..).mp failed
      have filters := compilesToFilter_iff.mpr ⟨fs, compileUnits_eq_ok_iff.mp units⟩
      exact .fields kinds projections filters bad
  · intro fault
    cases fault with
    | kind first => exact .inl (compileNames_eq_error_iff.mpr (.inl ⟨_, first, rfl⟩))
    | projection kinds first =>
        exact .inl (compileNames_eq_error_iff.mpr (.inr ⟨kinds, _, first, rfl⟩))
    | units kinds projections failed =>
        obtain ⟨names, read⟩ := exists_compileNames_eq_ok_iff.mpr ⟨kinds, projections⟩
        exact .inr ⟨names, read, .inl (compileFilters_eq_error_iff.mp failed)⟩
    | fields kinds projections filters bad =>
        obtain ⟨names, read⟩ := exists_compileNames_eq_ok_iff.mpr ⟨kinds, projections⟩
        obtain ⟨fs, units⟩ := compilesToFilter_iff.mp filters
        refine .inr ⟨names, read, .inr ⟨fs, compileUnits_eq_ok_iff.mpr units, ?_⟩⟩
        exact (QueryMessage.make_eq_error_iff ..).mpr ⟨bad, rfl⟩

end

/-- A builder that has compiled had a namespace with a description. So `compile_eq_ok_iff` can be
used of any compilation that has succeeded. -/
theorem describe_of_compile {q : Query} {scope n : Value} {m : QueryMessage Value}
    (effective : effectiveScope q.config scope = .ok n)
    (compiled : (q.compile scope).result = .ok m) : ∃ s, n.describe = .ok s := by
  rw [compile, compileState_result, effective] at compiled
  obtain ⟨_, same, compiled⟩ := bind_eq_ok_iff.mp compiled
  cases same
  obtain ⟨s, described, -⟩ := bind_eq_ok_iff.mp compiled
  exact ⟨s, described⟩

/-- What a builder has compiled to is `CompilesAs`, with no condition on the namespace. Most of what
is said of compiled queries elsewhere starts here. -/
theorem compilesAs_of_compile {q : Query} {scope n : Value} {m : QueryMessage Value}
    (effective : effectiveScope q.config scope = .ok n)
    (compiled : (q.compile scope).result = .ok m) : q.CompilesAs n m :=
  (compile_eq_ok_iff effective (describe_of_compile effective compiled) m).mp compiled

/-- A builder compiles to something exactly if there is nothing bad in it. -/
theorem exists_compilesAs_iff {q : Query} {scope : Value} :
    (∃ m, q.CompilesAs scope m) ↔ q.Acceptable scope := by
  have orNothing : ∀ (v : Value) {α : Type} (read? : Value → Option α),
      (v.orNothing read?).isSome = true ↔ v.isNone = true ∨ (read? v).isSome = true := by
    intro v α read?
    rw [Value.isSome_orNothing, Bool.or_eq_true]
  constructor
  · rintro ⟨m, kinds, projections, ⟨fs, units, -⟩, orders, groups, cursor, limit, offset⟩
    rw [← List.map_map] at kinds projections
    refine ⟨exists_map_eq_some_iff.mp ⟨_, kinds⟩, exists_map_eq_some_iff.mp ⟨_, projections⟩,
      compilesToFilter_iff.mpr ⟨fs, units⟩, ?_, ?_, ?_, ?_, by rw [offset]; rfl⟩
    · intro o ho
      have := exists_map_eq_some_iff.mp ⟨_, orders⟩ o ho
      rwa [Message.isSome_order?, decide_eq_true_iff] at this
    · intro g hg
      have := exists_map_eq_some_iff.mp ⟨_, groups⟩ g hg
      rwa [Message.isSome_reference?, decide_eq_true_iff] at this
    · rw [← orNothing, cursor]
      rfl
    · rw [← orNothing, limit]
      rfl
  -- Every field is read on its own, so the message is put together from one reading for each.
  · intro acceptable
    obtain ⟨kinds, kindsRead⟩ := exists_map_eq_some_iff.mpr acceptable.kinds
    obtain ⟨projections, projectionsRead⟩ := exists_map_eq_some_iff.mpr acceptable.projections
    obtain ⟨fs, units⟩ := compilesToFilter_iff.mp acceptable.filters
    have ordersRead : ∀ o ∈ q.orders, o.order?.isSome = true := by
      intro o ho
      rw [Message.isSome_order?, acceptable.orders o ho]
      rfl
    have groupsRead : ∀ g ∈ q.groups, g.reference?.isSome = true := by
      intro g hg
      rw [Message.isSome_reference?, acceptable.groups g hg]
      rfl
    obtain ⟨orders, ordersRead⟩ := exists_map_eq_some_iff.mpr ordersRead
    obtain ⟨groups, groupsRead⟩ := exists_map_eq_some_iff.mpr groupsRead
    obtain ⟨cursor, cursorRead⟩ := Option.isSome_iff_exists.mp
      ((orNothing _ Value.byteString?).mpr acceptable.startCursor)
    obtain ⟨limit, limitRead⟩ := Option.isSome_iff_exists.mp
      ((orNothing _ Value.integer?).mpr acceptable.limit)
    obtain ⟨offset, offsetRead⟩ := Option.isSome_iff_exists.mp acceptable.offset
    exact ⟨⟨kinds.map fun s => ⟨s⟩, projections.map fun s => ⟨⟨s⟩⟩, Filter.compose fs, orders,
        groups, cursor, limit, offset⟩,
      by rw [kindsRead, List.map_map]; rfl, by rw [projectionsRead, List.map_map]; rfl,
      ⟨fs, units, rfl⟩, ordersRead, groupsRead, cursorRead, limitRead, offsetRead⟩

end Query

end EntityQuery
