import EntityQuery.Proofs.Quotation
import EntityQuery.Proofs.Visits

/-!
# What is logged about a compilation

A compilation logs one record before it looks at anything that the builder has recorded, so there is
a record also of a compilation that fails. The record counts what the builder has recorded, and the
message is made from that item by item, so where there is a message the record counts what is in it.
A request is not compiled unless it has a partition: without one, nothing is logged and no unit is
called.

* `Traced.records` are the records that a computation logs, and `records_bind_eq_nil` says how a
  computation comes to log none. `compileUnits_records` says so of units that are no builders.
* `LogRecord.Announces` is what a record says of a builder, and `LogRecord.TrueOf` what that means
  for the message. `Query.CompiledFor` is the namespace that the record shows.
* `Query.compile_records`, `Query.request_of_error` and `Query.request_records` are the ways to
  compile a builder, and `Query.compile_logged` is about all of them.
-/

namespace EntityQuery

/-! ## Records of a computation -/

/-- The record that an event logs, if it is no visit. -/
def Event.record? : Event → Option LogRecord
  | .logged record => some record
  | .visited .. => none

/-- The records that a computation logs: `Traced.kept` for this selection of events. -/
def Traced.records {α : Type} (x : Traced α) : List LogRecord := x.kept Event.record?

namespace Traced

variable {α β : Type}

theorem records_bind_of_ok {x : Traced α} {a : α} (h : x.result = .ok a) (f : α → Traced β) :
    (x >>= f).records = x.records ++ (f a).records :=
  kept_bind_of_ok Event.record? h f

theorem records_bind_of_forall {x : Traced α} {f : α → Traced β}
    (silent : ∀ a, (f a).records = []) : (x >>= f).records = x.records :=
  kept_bind_of_forall silent

/-- Two computations that log nothing log nothing one after the other. -/
theorem records_bind_eq_nil {x : Traced α} {f : α → Traced β} (first : x.records = [])
    (second : ∀ a, (f a).records = []) : (x >>= f).records = [] := by
  rw [records_bind_of_forall second, first]

end Traced

/-! ## Units -/

variable {n : Value}

theorem Value.records_of_isLeaf {v : Value} (h : v.isLeaf = true) (n : Value) :
    (v.compile n).records = [] := by
  cases v <;> first | rfl | cases h

/-- Parts of a combination log nothing if none of them does. -/
theorem compileParts_records {parts : List Value}
    (each : ∀ p ∈ parts, (p.compile n).records = []) : (compileParts parts n).records = [] := by
  induction parts with
  | nil => rfl
  | cons p rest ih =>
      obtain ⟨first, others⟩ := List.forall_mem_cons.mp each
      rw [compileParts]
      exact Traced.records_bind_eq_nil first fun _ =>
        Traced.records_bind_eq_nil (ih others) fun _ => rfl

/-- Only builders log anything, so a unit without builders does not. By induction on the unit. -/
theorem Value.IsBuilderless.records {u : Value} (h : u.IsBuilderless) :
    (u.compile n).records = [] := by
  induction h with
  | leaf isLeaf => exact records_of_isLeaf isLeaf n
  | combination _ ih =>
      rw [compile]
      exact Traced.records_bind_eq_nil (compileParts_records ih) fun _ => rfl
  | object _ ih => exact ih

/-- Neither do several of them, up to the first that fails. -/
theorem compileUnits_records {units : List Value} (alone : ∀ u ∈ units, u.IsBuilderless)
    (index : Nat) : (compileUnits units index n).records = [] := by
  induction units generalizing index with
  | nil => rfl
  | cons u rest ih =>
      obtain ⟨first, others⟩ := List.forall_mem_cons.mp alone
      rw [compileUnits]
      split
      · refine Traced.records_bind_eq_nil first.records fun answer => ?_
        split
        · exact Traced.records_bind_eq_nil (ih others (index + 1)) fun _ => rfl
        · exact Traced.records_bind_eq_nil rfl fun _ => rfl
      · exact Traced.records_bind_eq_nil rfl fun _ => rfl

/-! ## Builders -/

/-- A record announces the compilation of a builder for a namespace: it counts what the builder has
recorded, and shows the namespace by `describe`, from which it can be told. -/
structure LogRecord.Announces (r : LogRecord) (q : Query) (n : Value) : Prop where
  kinds : r.kinds = q.kinds.length
  filters : r.filters = q.filters.length
  orders : r.orders = q.orders.length
  groups : r.groups = q.groups.length
  scope : n.describe = .ok r.scope
  scope_only : n.IsNamespace → ∀ n' : Value, n'.IsNamespace → n'.describe = .ok r.scope →
    n'.content = n.content

/-- A record is true of the message that a builder compiles to for a namespace: it counts what is in
the message, and the number of units tells what the filter is. -/
structure LogRecord.TrueOf (r : LogRecord) (q : Query) (n : Value) (m : QueryMessage Value) :
    Prop where
  kinds : r.kinds = m.kinds.length
  orders : r.orders = m.orders.length
  groups : r.groups = m.distinctOn.length
  without : r.filters = 0 → m.filter = none
  single : r.filters = 1 → ∃ u f, q.filters = [u] ∧ CompilesTo n u f ∧ m.filter = some f
  several : 2 ≤ r.filters → ∃ fs, m.filter = some (.composite .and fs none) ∧
    fs.length = r.filters ∧ List.Forall₂ (CompilesTo n) q.filters fs

namespace Query

/-- The namespace that a builder is compiled for if it is asked to compile for some value: that
value itself, or the default of the builder's configuration if the value is nothing. It says what
`effectiveScope` does without calling it. -/
inductive CompiledFor (q : Query) (scope : Value) : Value → Prop where
  | given (isSome : scope.isNone = false) : CompiledFor q scope scope
  | configured {dflt strict : Value} (isNone : scope.isNone = true)
      (config : q.config.content = .config dflt strict) : CompiledFor q scope dflt

theorem CompiledFor.effective {q : Query} {scope n : Value} (h : q.CompiledFor scope n) :
    effectiveScope q.config scope = .ok n := by
  unfold effectiveScope
  cases h with
  | given isSome => rw [isSome]; rfl
  | configured isNone config => rw [isNone, if_pos rfl, defaultScope, config]

/-- The namespace has a description, unless it is a default that has none. -/
theorem CompiledFor.describe {q : Query} {scope n : Value} (h : q.CompiledFor scope n)
    (isNamespace : scope.IsNamespace)
    (described : scope.isNone = true → ∃ s, n.describe = .ok s) : ∃ s, n.describe = .ok s := by
  cases h with
  | given isSome => exact isNamespace.describe
  | configured isNone config => exact described isNone

/-- A compilation logs one record at its start, before anything but the namespace can fail, and its
units log none. -/
theorem compile_records {q : Query} {scope n : Value} {shown : String} (alone : q.IsBuilderless)
    (effective : effectiveScope q.config scope = .ok n) (described : n.describe = .ok shown) :
    (q.compile scope).records =
      [⟨q.kinds.length, q.filters.length, q.orders.length, q.groups.length, shown⟩] := by
  obtain ⟨config, kinds, projections, filters, orders, groups, startCursor, limit, offset⟩ := q
  rw [compile, compileState, Traced.records_bind_of_ok effective,
    Traced.records_bind_of_ok described]
  refine Traced.records_bind_of_forall fun _ => ?_
  exact Traced.records_bind_eq_nil rfl fun names =>
    Traced.records_bind_eq_nil (compileUnits_records alone 0) fun _ => rfl

/-- A request without a partition fails at once, whatever the units are. -/
theorem request_of_error {q : Query} {scope projectId n : Value} {e : Failure}
    (effective : effectiveScope q.config scope = .ok n)
    (failed : PartitionId.make projectId n = .error e) : q.request scope projectId = .fail e := by
  rw [request, Traced.bind_of_ok effective, Traced.bind_of_error failed]
  rfl

/-- A request with a partition logs what its compilation logs. -/
theorem request_records {q : Query} {scope projectId n : Value} {partition : PartitionId}
    (effective : effectiveScope q.config scope = .ok n)
    (made : PartitionId.make projectId n = .ok partition) :
    (q.request scope projectId).records = (q.compile scope).records := by
  rw [request, Traced.records_bind_of_ok effective, Traced.records_bind_of_ok made,
    compile_effectiveScope effective]
  exact Traced.records_bind_of_forall fun _ => rfl

/-- What was announced is true of the message: `CompilesAs` says that no kind, order or group is
lost, and `Filter.compose` counts the units. -/
theorem trueOf_of_compile {q : Query} {scope n : Value} {r : LogRecord} {m : QueryMessage Value}
    (announces : r.Announces q n) (effective : effectiveScope q.config scope = .ok n)
    (compiled : (q.compile scope).result = .ok m) : r.TrueOf q n m := by
  have compiles := compilesAs_of_compile effective compiled
  obtain ⟨fs, each, filter⟩ := compiles.filter
  -- There is a filter for each unit, so the number of units tells how they were composed.
  have many : fs.length = r.filters := by rw [announces.filters, each.length_eq]
  refine ⟨?_, ?_, ?_, ?_, ?_, ?_⟩
  · rw [announces.kinds]
    simpa using congrArg List.length compiles.kinds
  · rw [announces.orders]
    simpa using congrArg List.length compiles.orders
  · rw [announces.groups]
    simpa using congrArg List.length compiles.groups
  · intro none
    rw [filter, List.eq_nil_of_length_eq_zero (many.trans none), Filter.compose_nil]
  · intro one
    obtain ⟨f, rfl⟩ := List.length_eq_one_iff.mp (many.trans one)
    generalize q.filters = units at each ⊢
    cases each with
    | cons first others =>
        cases others
        exact ⟨_, f, rfl, first, filter⟩
  · intro several
    rw [← many] at several
    exact ⟨fs, filter.trans (Filter.compose_of_two_le several), many, each⟩

/-- A compilation logs exactly one record, whether it succeeds or fails, and so does a request,
unless `PartitionId.make` fails: then it fails at once, and so would it with any other units, so
nothing is logged and no unit is called. The record `Announces` the builder for the namespace that
it is compiled for and for no other, and it is `TrueOf` the message. -/
theorem compile_logged {q : Query} {scope n : Value} (alone : q.IsBuilderless)
    (isNamespace : scope.IsNamespace) (target : q.CompiledFor scope n)
    (described : scope.isNone = true → ∃ shown, n.describe = .ok shown) :
    ∃ r : LogRecord, r.Announces q n ∧ (q.compile scope).records = [r] ∧
      (∀ m, (q.compile scope).result = .ok m → r.TrueOf q n m) ∧
      ∀ projectId,
        (∀ partition, PartitionId.make projectId n = .ok partition →
          (q.request scope projectId).records = [r]) ∧
        (∀ m, (q.request scope projectId).result = .ok m → r.TrueOf q n m.query) ∧
        ∀ e, PartitionId.make projectId n = .error e →
          ∀ units, request { q with filters := units } scope projectId = .fail e := by
  have effective := target.effective
  obtain ⟨shown, described⟩ := target.describe isNamespace described
  have logged := compile_records alone effective described
  have only : n.IsNamespace → ∀ n' : Value, n'.IsNamespace → n'.describe = .ok shown →
      n'.content = n.content := fun h _ h' same =>
    h.content_eq_of_describe h' (same.trans described.symm)
  have announces : LogRecord.Announces
      ⟨q.kinds.length, q.filters.length, q.orders.length, q.groups.length, shown⟩ q n :=
    ⟨rfl, rfl, rfl, rfl, described, only⟩
  refine ⟨_, announces, logged, fun m => trueOf_of_compile announces effective, ?_⟩
  intro projectId
  refine ⟨?_, ?_, ?_⟩
  · intro partition made
    rw [request_records effective made, logged]
  · intro m requested
    exact trueOf_of_compile announces effective ((request_eq_ok_iff effective).mp requested).2
  · intro e failed units
    exact request_of_error effective failed

/-- A builder with two units, one of them a combination, that is compiled for its default namespace:
as it is, with a list for a limit, and for a project with a number for a name. -/
theorem compile_logged_default :
    let r₇ : Value := .recorder 7 (.text "a")
    let q : Query := { Query.new (.config (.text "d") (.bool false)) with
      kinds := [.text "Player"]
      filters := [r₇, .combination 1 (.member (.composite .or)) [.recorder 8 (.text "b"), r₇]]
      orders := [.propertyOrder ⟨⟨"a"⟩, .ascending⟩] }
    let faulty : Query := { q with limit := .list [] }
    (q.IsBuilderless ∧ faulty.IsBuilderless ∧ Value.none.IsNamespace ∧
      q.CompiledFor .none (.text "d") ∧ faulty.CompiledFor .none (.text "d") ∧
      ∃ shown, (Value.text "d").describe = .ok shown) ∧
    (∃ m r fs, (q.compile .none).result = .ok m ∧ (q.compile .none).records = [r] ∧
      (q.request .none (.text "p")).records = [r] ∧ r.scope = "'d'" ∧ r.kinds = m.kinds.length ∧
      m.filter = some (.composite .and fs none) ∧ fs.length = 2) ∧
    (∃ e r, (faulty.compile .none).result = .error e ∧
      (faulty.compile .none).records = [r]) ∧
    ∃ e, q.request .none (.int 5) = .fail e := by
  intro r₇ q faulty
  have alone : q.IsBuilderless := by
    simp only [Query.IsBuilderless, q, List.forall_mem_cons, List.not_mem_nil, false_implies,
      implies_true, and_true]
    refine ⟨.leaf rfl, .combination ?_⟩
    simp only [List.forall_mem_cons, List.not_mem_nil, false_implies, implies_true, and_true]
    exact ⟨.leaf rfl, .leaf rfl⟩
  have isNamespace : Value.none.IsNamespace := .inl rfl
  have target : q.CompiledFor .none (.text "d") := .configured rfl rfl
  have target' : faulty.CompiledFor .none (.text "d") := .configured rfl rfl
  have described : ∃ shown, (Value.text "d").describe = .ok shown := ⟨_, rfl⟩
  obtain ⟨r, announces, logged, isTrue, requests⟩ :=
    compile_logged alone isNamespace target fun _ => described
  obtain ⟨r', -, logged', -, -⟩ := compile_logged (q := faulty) alone isNamespace target'
    fun _ => described
  refine ⟨⟨alone, alone, isNamespace, target, target', described⟩, ?_, ⟨_, r', rfl, logged'⟩, ?_⟩
  · have succeeds : ∃ m, (q.compile .none).result = .ok m := ⟨_, rfl⟩
    obtain ⟨m, compiled⟩ := succeeds
    have shown : r.scope = "'d'" := (Except.ok.inj announces.scope).symm
    have two : r.filters = 2 := announces.filters
    obtain ⟨fs, filter, many, -⟩ := (isTrue m compiled).several (Nat.le_of_eq two.symm)
    exact ⟨m, r, fs, compiled, logged, (requests (.text "p")).1 _ rfl, shown,
      (isTrue m compiled).kinds, filter, many.trans two⟩
  · exact ⟨_, (requests (.int 5)).2.2 _ rfl q.filters⟩

end Query

end EntityQuery
