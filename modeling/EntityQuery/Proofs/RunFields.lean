import Mathlib.Data.List.Basic
import EntityQuery.Proofs.PageSetting
import EntityQuery.Proofs.Run

/-!
# Which calls a field depends on

Every call is about one field of the builder. What a field holds after a run is a fold over the
calls that are about it, in their order; the others do not matter, and neither does it matter when
they were made. A call that fails is no call, with the one exception that `project` makes.

* `Query.Call.field` is the field that a call is about, and `Query.run_congr` says that runs agree
  whose calls agree field by field.
* `Value.projected?` are the names that an argument of a projection call stands for, and
  `Query.project_eq_recorded` says which of them are recorded.
* `Query.apply_of_error` is a call that fails.
-/

namespace EntityQuery

/-! ## Projections -/

/-- The names that an argument of a projection call stands for: a text for itself, and everything
else for its items, if it has any. This is `namesOf` without the failure. -/
def Value.projected? (v : Value) : Option (List Value) :=
  if v.asText?.isSome then some [v] else v.items?

namespace Query

theorem namesOf_eq (v : Value) :
    namesOf v = v.projected?.elim (.error (.notIterable v.typeName)) .ok := by
  unfold namesOf Value.projected? Value.items
  cases v.asText?.isSome with
  | true => rfl
  | false => cases v.items? <;> rfl

/-- The names that a projection call records: those of the arguments before the first one that
stands for none. A call that fails half-way keeps them, as `project` extends the list argument by
argument. -/
def recorded (arguments : List Value) : List Value :=
  (arguments.takeWhile (·.projected?.isSome)).flatMap fun v => v.projected?.getD []

/-- `project` by `recorded` and the first bad argument, by induction on the arguments. -/
theorem project_eq_recorded (arguments : List Value) :
    project [] arguments = (recorded arguments,
      (arguments.find? (·.projected?.isNone)).elim (.ok ())
        fun v => .error (.notIterable v.typeName)) := by
  induction arguments with
  | nil => rfl
  | cons v rest ih =>
      unfold project recorded
      rw [namesOf_eq]
      cases read : v.projected? with
      | none => simp [read]
      | some names =>
          simp only [Option.elim_some, List.nil_append]
          rw [project_eq, ih]
          simp [read, recorded]

/-! ## The fields of a builder -/

/-- The fields of a builder that calls are about. Each call is about one of them (`Call.field`), so
the order of calls on different fields cannot matter. -/
inductive StateField where
  | kinds
  | projections
  | filters
  | orders
  | groups
  | startCursor
  | limit
  | offset
  deriving DecidableEq

namespace Call

/-- The field that a call is about. -/
def field : Call → StateField
  | .keysOnly | .properties _ => .projections
  | .kindOf _ => .kinds
  | .filterBy _ => .filters
  | .orderBy _ => .orders
  | .groupBy _ => .groups
  | .fromCursor _ => .startCursor
  | .limit _ => .limit
  | .offset _ | .clearOffset => .offset

/-- The names that a call records. -/
def recorded : Call → List Value
  | .keysOnly => [.text "__key__"]
  | .properties arguments => Query.recorded arguments
  | _ => []

/-- The names that a call has recorded when it fails: none, unless it is a projection call. -/
def kept : Call → List Value
  | .properties arguments => Query.recorded arguments
  | _ => []

/-- The limit that a call sets: the one that `takesPage`. In contrast to `Call.limit?` no
configuration is checked here. -/
def takenLimit? (strict : Value) : Call → Option Value
  | .limit v => if takesPage strict v then some v else none
  | _ => none

/-- The offset that a call sets: the one that is taken, or none to skip. -/
def takenOffset? (strict : Value) : Call → Option Value
  | .offset v => if takesPage strict v then some v else none
  | .clearOffset => some (.int 0)
  | _ => none

theorem projections_eq_recorded (call : Call) : call.projections = call.recorded := by
  cases call with
  | properties arguments => simp only [projections, recorded, project_eq_recorded]
  | _ => rfl

theorem accepted?_eq {config dflt strict : Value}
    (configured : config.content = .config dflt strict) (field : PageField) (v : Value) :
    accepted? config field v = if takesPage strict v then some v else none := by
  rw [accepted?, checkPage_eq configured]
  cases takesPage strict v with
  | true => rfl
  | false => cases v.isNumber <;> rfl

theorem limit?_eq {config dflt strict : Value} (configured : config.content = .config dflt strict)
    (call : Call) : call.limit? config = call.takenLimit? strict := by
  cases call with
  | limit v => exact accepted?_eq configured .limit v
  | _ => rfl

theorem offset?_eq {config dflt strict : Value} (configured : config.content = .config dflt strict)
    (call : Call) : call.offset? config = call.takenOffset? strict := by
  cases call with
  | offset v => exact accepted?_eq configured .offset v
  | _ => rfl

/-- A call puts nothing into the fields that it is not about. This is the one case analysis on calls
that the two lemmas on `StateField` below need. -/
theorem elsewhere (config : Value) (c : Call) :
    (c.field ≠ .kinds → c.kinds = []) ∧ (c.field ≠ .projections → c.projections = []) ∧
    (c.field ≠ .filters → c.units = []) ∧ (c.field ≠ .orders → c.orders = []) ∧
    (c.field ≠ .groups → c.groups = []) ∧ (c.field ≠ .startCursor → c.cursor? = none) ∧
    (c.field ≠ .limit → c.limit? config = none) ∧
    (c.field ≠ .offset → c.offset? config = none) := by
  cases c <;> simp [field]

end Call

section

variable {calls calls' : List Call}
  (same : ∀ f, (calls.filter fun c => c.field = f) = calls'.filter fun c => c.field = f)

include same

/-- What calls on one field add up to depends on those calls and their order only. The filtered
lists of calls are assumed to agree, field by field. -/
theorem flatMap_congr_field {α : Type} {added : Call → List α} {f : StateField}
    (others : ∀ c : Call, c.field ≠ f → added c = []) :
    calls.flatMap added = calls'.flatMap added := by
  -- The other calls add nothing, so they may be left out.
  have restrict : ∀ calls : List Call,
      (calls.filter fun c => c.field = f).flatMap added = calls.flatMap added := by
    intro calls
    induction calls with
    | nil => rfl
    | cons c rest ih =>
        by_cases about : c.field = f
        · simp [about, ih]
        · simp [about, ih, others c about]
  rw [← restrict calls, same f, restrict calls']

theorem lastOf_congr_field {α : Type} {put? : Call → Option α} {f : StateField}
    (others : ∀ c : Call, c.field ≠ f → put? c = none) :
    lastOf put? calls = lastOf put? calls' := by
  simp only [lastOf, List.filterMap_eq_flatMap_toList]
  rw [flatMap_congr_field same fun c about => by rw [others c about, Option.toList_none]]

/-- Runs agree whose calls agree field by field: `run_eq` gives the fields, and each is a `flatMap`
or a `lastOf`. -/
theorem run_congr (q : Query) : q.run calls = q.run calls' := by
  have elsewhere := Call.elsewhere q.config
  rw [run_eq, run_eq, flatMap_congr_field same fun c => (elsewhere c).1,
    flatMap_congr_field same fun c => (elsewhere c).2.1,
    flatMap_congr_field same fun c => (elsewhere c).2.2.1,
    flatMap_congr_field same fun c => (elsewhere c).2.2.2.1,
    flatMap_congr_field same fun c => (elsewhere c).2.2.2.2.1,
    lastOf_congr_field same fun c => (elsewhere c).2.2.2.2.2.1,
    lastOf_congr_field same fun c => (elsewhere c).2.2.2.2.2.2.1,
    lastOf_congr_field same fun c => (elsewhere c).2.2.2.2.2.2.2]

end

/-! ## Calls that fail -/

/-- A call that fails leaves the builder as it was, but for what it has `kept`. -/
theorem apply_of_error {q : Query} {call : Call} {e : Failure}
    (failed : (q.apply call).outcome.result = .error e) :
    (q.apply call).state = { q with projections := q.projections ++ call.kept } ∧
      ∀ arguments, call = .properties arguments →
        ∃ v, arguments.find? (·.projected?.isNone) = some v ∧ e = .notIterable v.typeName := by
  cases call with
  | properties arguments =>
      simp only [apply, project_eq q.projections, project_eq_recorded, Traced.lift,
        Call.kept] at failed ⊢
      refine ⟨trivial, ?_⟩
      rintro _ ⟨⟩
      cases bad : arguments.find? (·.projected?.isNone) with
      | none => simp [bad] at failed
      | some v =>
          simp only [bad, Option.elim_some, Except.error.injEq] at failed
          exact ⟨v, rfl, failed.symm⟩
  | orderBy v | groupBy v | limit v | offset v =>
      simp only [apply] at failed ⊢
      split at failed
      next => cases failed
      next => simp [Effect.failed, Call.kept]
  | _ => cases failed

/-- The state after a run of a new builder: the fold of the calls on each `StateField`, in their
order and however they interleave with the others. A call that fails changes nothing, unless it is a
projection call, which has `kept` the names up to the offending argument. -/
theorem run_new_fields {config dflt strict : Value}
    (configured : config.content = .config dflt strict) :
    (∀ calls, (new config).run calls =
      { config
        kinds := calls.flatMap Call.kinds
        projections := calls.flatMap Call.recorded
        filters := calls.flatMap Call.units
        orders := calls.flatMap Call.orders
        groups := calls.flatMap Call.groups
        startCursor := (lastOf Call.cursor? calls).getD .none
        limit := (lastOf (Call.takenLimit? strict) calls).getD .none
        offset := (lastOf (Call.takenOffset? strict) calls).getD (.int 0) }) ∧
    (∀ calls calls' : List Call,
      (∀ f, (calls.filter fun c => c.field = f) = calls'.filter fun c => c.field = f) →
      (new config).run calls = (new config).run calls') ∧
    (∀ (q : Query) (call : Call) (e : Failure), (q.apply call).outcome.result = .error e →
      (q.apply call).state = { q with projections := q.projections ++ call.kept } ∧
        ∀ arguments, call = .properties arguments →
          ∃ v, arguments.find? (·.projected?.isNone) = some v ∧ e = .notIterable v.typeName) := by
  have isConfig : (new config).config = config := by
    have truthy : config.truthy = true := by
      rw [← Value.truthy_content, configured]
      rfl
    rw [new, if_pos truthy]
  refine ⟨fun calls => ?_, fun _ _ same => run_congr same _, fun _ _ _ => apply_of_error⟩
  rw [run_eq, isConfig, funext (Call.limit?_eq configured), funext (Call.offset?_eq configured),
    funext Call.projections_eq_recorded]
  rfl

/-- Two runs of a strict builder that differ in the order of calls on different fields; a negative
limit, a property that is no name and an order that does not compile are among the calls. -/
theorem run_new_fields_interleaved :
    let config : Value := .config .none (.bool true)
    let q : Query := new config
    config.content = .config .none (.bool true) ∧
    q.run [.limit (.int 3), .properties [.list [.text "a"], .int 5, .text "b"], .limit (.int (-1)),
      .orderBy (.order (.int 7) .none), .keysOnly] =
      { q with projections := [.text "a", .text "__key__"], limit := .int 3 } ∧
    q.run [.properties [.list [.text "a"], .int 5, .text "b"], .keysOnly, .limit (.int 3),
      .orderBy (.order (.int 7) .none), .limit (.int (-1))] =
      { q with projections := [.text "a", .text "__key__"], limit := .int 3 } := by
  intro config q
  have configured : config.content = .config .none (.bool true) := rfl
  obtain ⟨run, congr, -⟩ := run_new_fields configured
  have first : q.run [.limit (.int 3), .properties [.list [.text "a"], .int 5, .text "b"],
      .limit (.int (-1)), .orderBy (.order (.int 7) .none), .keysOnly] =
      { q with projections := [.text "a", .text "__key__"], limit := .int 3 } := by
    rw [run]
    rfl
  refine ⟨configured, first, ?_⟩
  rw [← first]
  refine congr _ _ fun f => ?_
  cases f <;> rfl

end Query

end EntityQuery
